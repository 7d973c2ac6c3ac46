import GraphWalk.Proofs.Store.Issue

/-!
# Changes beside what is there

`Apart s t` says that `t` has come about from `s` by changes in the empty slots of `s` only:
what was there is there unchanged, the nodes that are new list new edges, and the edges that are
new join new nodes. Creating a node or an edge between new nodes keeps to this, and so does
deleting a new node, with the edges on its list. None of this asks for a store in order, only
for slots to take.

`Beside s t` says moreover that each new edge is found at its source. This holds as long as no
edge is made under generation 0, which names nothing.

Main result: `Beside.unchanged_iff`. **The nodes and edges are those of `s`, in the same order,
just if no new node is left.**
-/

namespace GraphWalk

namespace Arena

variable {α : Type} {a b c : Arena α} {i g : UInt32} {x : α} {j : Nat}

/-- What is in the slot at an index. -/
def item? (a : Arena α) (j : Nat) : Option α := (a.slots[j]?).bind Slot.item

theorem item?_eq_some : a.item? j = some x ↔ ∃ g, a.slots[j]? = some ⟨g, some x⟩ := by
  unfold item?
  rw [Option.bind_eq_some_iff]
  constructor
  · rintro ⟨⟨g, item⟩, hs, hi⟩
    exact ⟨g, by rw [hs, ← hi]⟩
  · rintro ⟨g, hs⟩
    exact ⟨_, hs, rfl⟩

theorem item?_of_get? (h : a.get? i g = some x) : a.item? i.toNat = some x :=
  item?_eq_some.2 ⟨g, (get?_eq_some.1 h).1⟩

theorem item?_update (i : UInt32) (f : α → α) (j : Nat) :
    (a.update i f).item? j = if i.toNat = j then (a.item? j).map f else a.item? j := by
  unfold item? update
  simp only [Array.getElem?_modify]
  split
  · cases a.slots[j]? <;> rfl
  · rfl

theorem item?_remove (i : UInt32) (j : Nat) :
    (a.remove i).item? j = if i.toNat = j then none else a.item? j := by
  unfold item? remove
  simp only [Array.getElem?_modify]
  split
  · cases a.slots[j]? <;> rfl
  · rfl

theorem item?_inserted (h : Inserted a b i g x) (j : Nat) :
    b.item? j = if j = i.toNat then some x else a.item? j := by
  unfold item?
  rw [h.slot]
  split <;> rfl

theorem Inserted.empty (h : Inserted a b i g x) : a.item? i.toNat = none := by
  unfold item?
  rcases h.vacant with hv | ⟨hv, -⟩
  · rw [hv]
    rfl
  · rw [Array.getElem?_eq_none hv.le]
    rfl

theorem Inserted.size_succ (h : Inserted a b i g x) : b.slots.size ≤ a.slots.size + 1 := by
  have := h.size_le
  rcases h.vacant with hv | ⟨hv, -⟩
  · have := lt_size hv
    omega
  · omega

/-- A slot that is taken keeps to its generation, which is the one that the item was made
under. -/
theorem Inserted.filled (h : Inserted a b i g x) : b.slots[i.toNat]? = some ⟨g, some x⟩ := by
  rw [h.slot, if_pos rfl]

/-- A slot that is filled after changes and removals was filled before. -/
theorem Worn.isSome_item? {β : Type} {kept : α → β} (h : a.Worn kept b)
    (hx : (b.item? j).isSome = true) : (a.item? j).isSome = true := by
  induction h with
  | refl => exact hx
  | update i _ _ ih =>
    rw [item?_update] at hx
    refine ih ?_
    split at hx
    · rwa [Option.isSome_map] at hx
    · exact hx
  | remove _ _ ih =>
    rw [item?_remove] at hx
    refine ih ?_
    split at hx
    · cases hx
    · exact hx

/-- **What is under generation 0 stays.** It is not found, so nothing removes it. -/
theorem Worn.filled_zero {β : Type} {kept : α → β} (h : a.Worn kept b)
    (hx : ∃ x, a.slots[j]? = some ⟨0, some x⟩) : ∃ y, b.slots[j]? = some ⟨0, some y⟩ := by
  induction h with
  | refl => exact hx
  | @update b i f _ _ ih =>
    obtain ⟨y, hy⟩ := ih
    simp only [Arena.update, Array.getElem?_modify, hy]
    split
    · exact ⟨f y, rfl⟩
    · exact ⟨y, rfl⟩
  | @remove b i g x _ hg ih =>
    obtain ⟨y, hy⟩ := ih
    obtain ⟨hs, h0⟩ := get?_eq_some.1 hg
    refine ⟨y, ?_⟩
    simp only [Arena.remove, Array.getElem?_modify]
    rw [if_neg]
    · exact hy
    · rintro rfl
      rw [hs] at hy
      cases hy
      exact h0 rfl

/-! ## Slots that are kept -/

/-- What is in a slot of `a` is in that slot of `b`, under the same generation. -/
def Keeps (a b : Arena α) : Prop :=
  ∀ (j : Nat) (slot : Slot α), a.slots[j]? = some slot → slot.item.isSome = true →
    b.slots[j]? = some slot

theorem Keeps.refl (a : Arena α) : a.Keeps a := fun _ _ hs _ => hs

theorem Keeps.get? (h : a.Keeps b) (hx : a.get? i g = some x) : b.get? i g = some x := by
  obtain ⟨hs, h0⟩ := get?_eq_some.1 hx
  exact get?_eq_some.2 ⟨h _ _ hs rfl, h0⟩

theorem Keeps.item? (h : a.Keeps b) (hx : a.item? j = some x) : b.item? j = some x := by
  obtain ⟨g, hs⟩ := item?_eq_some.1 hx
  exact item?_eq_some.2 ⟨g, h _ _ hs rfl⟩

/-- A change to a slot that is empty in `a`. -/
theorem Keeps.of_slots (h : a.Keeps b) (hi : a.item? i.toNat = none)
    (hslots : ∀ j, j ≠ i.toNat → c.slots[j]? = b.slots[j]?) : a.Keeps c := by
  intro j slot hs hx
  rw [hslots j, h j slot hs hx]
  rintro rfl
  rw [Option.bind_eq_none_iff.1 hi slot hs] at hx
  cases hx

theorem Keeps.update (h : a.Keeps b) (hi : a.item? i.toNat = none) (f : α → α) :
    a.Keeps (b.update i f) :=
  h.of_slots hi fun j hj => by
    simp only [Arena.update, Array.getElem?_modify, if_neg (Ne.symm hj)]

theorem Keeps.remove (h : a.Keeps b) (hi : a.item? i.toNat = none) : a.Keeps (b.remove i) :=
  h.of_slots hi fun j hj => by
    simp only [Arena.remove, Array.getElem?_modify, if_neg (Ne.symm hj)]

/-- An insertion takes an empty slot. -/
theorem Inserted.keeps (h : Inserted a b i g x) : a.Keeps b := by
  intro j slot hs hx
  rw [h.slot, if_neg]
  · exact hs
  · rintro rfl
    have hnone : slot.item = none := Option.bind_eq_none_iff.1 h.empty slot hs
    rw [hnone] at hx
    cases hx

/-- An insertion takes a slot that is empty in `b`, and so in `a`. -/
theorem Keeps.inserted (h : a.Keeps b) (hx : Inserted b c i g x) :
    a.item? i.toNat = none ∧ a.Keeps c := by
  have hi : a.item? i.toNat = none := by
    cases hy : a.item? i.toNat with
    | none => rfl
    | some y =>
      have := h.item? hy
      rw [hx.empty] at this
      cases this
  exact ⟨hi, h.of_slots hi fun j hj => by rw [hx.slot, if_neg hj]⟩

/-- Lists that have the same at each place, up to places with nothing, collect the same. -/
theorem filterMap_eq_of_bind {β : Type} {f : α → Option β} (xs : List α) :
    ∀ ys : List α, (∀ j : Nat, ys[j]?.bind f = xs[j]?.bind f) →
      ys.filterMap f = xs.filterMap f := by
  induction xs with
  | nil =>
    intro ys h
    rw [List.filterMap_nil, List.filterMap_eq_nil_iff]
    intro y hy
    obtain ⟨j, hj⟩ := List.mem_iff_getElem?.1 hy
    have := h j
    rwa [hj] at this
  | cons x xs ih =>
    intro ys h
    cases ys with
    | nil =>
      symm
      rw [List.filterMap_nil, List.filterMap_eq_nil_iff]
      intro y hy
      obtain ⟨j, hj⟩ := List.mem_iff_getElem?.1 hy
      have := h j
      rw [hj] at this
      exact this.symm
    | cons y ys =>
      have h0 : f y = f x := h 0
      rw [List.filterMap_cons, List.filterMap_cons, h0, ih ys fun j => h (j + 1)]

/-- A list with more at some place collects more. -/
theorem length_filterMap_of_bind {β : Type} {f : α → Option β} (xs : List α) :
    ∀ ys : List α, (∀ (j : Nat) z, xs[j]?.bind f = some z → ys[j]?.bind f = some z) →
      (xs.filterMap f).length ≤ (ys.filterMap f).length ∧
        ((ys.filterMap f).length = (xs.filterMap f).length →
          ∀ j : Nat, ys[j]?.bind f = xs[j]?.bind f) := by
  induction xs with
  | nil =>
    intro ys h
    refine ⟨Nat.zero_le _, fun hlen j => ?_⟩
    have hnil := List.filterMap_eq_nil_iff.1 (List.length_eq_zero_iff.1 hlen)
    cases hy : ys[j]? with
    | none => rfl
    | some y => exact hnil y (List.mem_of_getElem? hy)
  | cons x xs ih =>
    intro ys h
    cases ys with
    | nil =>
      -- there is nothing at any place of the first list either
      have hall : ∀ j : Nat, ((x :: xs)[j]?).bind f = none := by
        intro j
        cases hz : ((x :: xs)[j]?).bind f with
        | none => rfl
        | some z => exact absurd (h j z hz) nofun
      have hnil : (x :: xs).filterMap f = [] := by
        rw [List.filterMap_eq_nil_iff]
        intro y hy
        obtain ⟨j, hj⟩ := List.mem_iff_getElem?.1 hy
        have := hall j
        rwa [hj] at this
      rw [hnil]
      exact ⟨le_rfl, fun _ j => (hall j).symm⟩
    | cons y ys =>
      obtain ⟨hle, heq⟩ := ih ys fun j z hz => h (j + 1) z hz
      have h0 : ∀ z, f x = some z → f y = some z := fun z hz => h 0 z hz
      rw [List.filterMap_cons, List.filterMap_cons]
      cases hx : f x with
      | some z =>
        rw [h0 z hx]
        refine ⟨Nat.succ_le_succ hle, fun hlen j => ?_⟩
        cases j with
        | zero => exact (h0 z hx).trans hx.symm
        | succ j => exact heq (Nat.succ.inj hlen) j
      | none =>
        cases hy : f y with
        -- one more is collected here, so the lengths differ
        | some z => exact ⟨hle.trans (Nat.le_succ _), fun hlen => by simp at hlen; omega⟩
        | none =>
          refine ⟨hle, fun hlen j => ?_⟩
          cases j with
          | zero => exact hy.trans hx.symm
          | succ j => exact heq hlen j

/-- **Nothing has been added** just if the slots that were empty still are. -/
theorem Keeps.items_eq_iff (h : a.Keeps b) :
    b.items = a.items ↔ ∀ j, a.item? j = none → b.item? j = none := by
  have hkept : ∀ (j : Nat) z, a.slots.toList[j]?.bind Slot.item = some z →
      b.slots.toList[j]?.bind Slot.item = some z := by
    intro j z hz
    rw [Array.getElem?_toList] at hz ⊢
    exact h.item? hz
  constructor
  · intro heq j hj
    have := (length_filterMap_of_bind _ _ hkept).2 (congrArg List.length heq) j
    rw [Array.getElem?_toList, Array.getElem?_toList] at this
    exact this.trans hj
  · intro hempty
    refine filterMap_eq_of_bind _ _ fun j => ?_
    rw [Array.getElem?_toList, Array.getElem?_toList]
    cases hx : a.item? j with
    | none => exact (hempty j hx).trans hx.symm
    | some x => exact (h.item? hx).trans hx.symm

end Arena

namespace Store

open Arena (Keeps Inserted)

variable {s t t' : Store} {h k v : Handle} {x : Node} {e : Edge} {i g : UInt32}

/-- **`t` differs from `s` only where `s` has empty slots.** Nodes there list edges that are
there, and edges there join such nodes. -/
structure Apart (s t : Store) : Prop where
  nodes : s.nodes.Keeps t.nodes
  edges : s.edges.Keeps t.edges
  pins : t.pins = s.pins
  listed : ∀ {j x}, t.nodes.item? j = some x → s.nodes.item? j = none →
    ∀ k ∈ x.edges, k.kind = .edge ∧ s.edges.item? k.index.toNat = none
  ends : ∀ {j e}, t.edges.item? j = some e → s.edges.item? j = none →
    s.nodes.item? e.source.index.toNat = none ∧ s.nodes.item? e.target.index.toNat = none

/-- Moreover, every new edge is listed at its source. -/
structure Beside (s t : Store) : Prop extends Apart s t where
  tied : ∀ {j e}, t.edges.item? j = some e → s.edges.item? j = none →
    ∃ k x, k.index.toNat = j ∧ t.edge? k = some e ∧ t.node? e.source = some x ∧ k ∈ x.edges

theorem Beside.refl (s : Store) : Beside s s := by
  refine ⟨⟨.refl _, .refl _, rfl, fun hx hn => ?_, fun hx hn => ?_⟩, fun hx hn => ?_⟩ <;>
    · rw [hx] at hn
      cases hn

/-- What is found in `s` is found in `t`. -/
theorem Apart.node? (ha : Apart s t) (hx : s.node? h = some x) : t.node? h = some x := by
  obtain ⟨hk, hg⟩ := node?_eq_some.1 hx
  exact node?_eq_some.2 ⟨hk, ha.nodes.get? hg⟩

theorem Apart.edge? (ha : Apart s t) (he : s.edge? h = some e) : t.edge? h = some e := by
  obtain ⟨hk, hg⟩ := edge?_eq_some.1 he
  exact edge?_eq_some.2 ⟨hk, ha.edges.get? hg⟩

theorem item?_of_node? (hx : s.node? h = some x) : s.nodes.item? h.index.toNat = some x :=
  Arena.item?_of_get? (node?_eq_some.1 hx).2

theorem item?_of_edge? (he : s.edge? h = some e) : s.edges.item? h.index.toNat = some e :=
  Arena.item?_of_get? (edge?_eq_some.1 he).2

/-- A handle of an empty slot is not pinned, where only live instances are. -/
theorem Anchored.not_mem_pins (ha : s.Anchored)
    (hn : h.kind = .node → s.nodes.item? h.index.toNat = none)
    (he : h.kind = .edge → s.edges.item? h.index.toNat = none) : h ∉ s.pins := by
  intro hp
  rcases contains_iff.1 (ha h hp) with hc | hc
  · obtain ⟨x, hx⟩ := Option.isSome_iff_exists.1 hc
    have := item?_of_node? hx
    rw [hn (node?_eq_some.1 hx).1] at this
    cases this
  · obtain ⟨e, hx⟩ := Option.isSome_iff_exists.1 hc
    have := item?_of_edge? hx
    rw [he (edge?_eq_some.1 hx).1] at this
    cases this

/-! ## Changes to single slots -/

/-- The list of a new node loses edges, or gets new ones. -/
theorem Apart.update (ha : Apart s t) (hi : s.nodes.item? i.toNat = none) {f : Node → Node}
    (hf : ∀ x, ∀ k ∈ (f x).edges,
      k ∈ x.edges ∨ k.kind = .edge ∧ s.edges.item? k.index.toNat = none) :
    Apart s { t with nodes := t.nodes.update i f } := by
  refine ⟨ha.nodes.update hi f, ha.edges, ha.pins, fun {j x} hx hn k hk => ?_, ha.ends⟩
  simp only [Arena.item?_update] at hx
  split at hx
  · obtain ⟨y, hy, rfl⟩ := Option.map_eq_some_iff.1 hx
    exact (hf y k hk).elim (ha.listed hy hn k) id
  · exact ha.listed hx hn k hk

/-- A new node is taken out of its slot. -/
theorem Apart.emptyNode (ha : Apart s t) (hi : s.nodes.item? i.toNat = none) :
    Apart s { t with nodes := t.nodes.remove i } := by
  refine ⟨ha.nodes.remove hi, ha.edges, ha.pins, fun {j x} hx hn => ?_, ha.ends⟩
  simp only [Arena.item?_remove] at hx
  split at hx
  · cases hx
  · exact ha.listed hx hn

theorem Apart.emptyEdge (ha : Apart s t) (hi : s.edges.item? i.toNat = none) :
    Apart s { t with edges := t.edges.remove i } := by
  refine ⟨ha.nodes, ha.edges.remove hi, ha.pins, ha.listed, fun {j e} he hn => ?_⟩
  simp only [Arena.item?_remove] at he
  split at he
  · cases he
  · exact ha.ends he hn

theorem Apart.insertNode (ha : Apart s t) {nodes : Arena Node}
    (hx : Inserted t.nodes nodes i g x) (halone : x.edges = []) :
    Apart s { t with nodes } := by
  refine ⟨(ha.nodes.inserted hx).2, ha.edges, ha.pins, fun {j y} hy hn k hk => ?_, ha.ends⟩
  simp only [Arena.item?_inserted hx] at hy
  split at hy
  · cases hy
    rw [halone] at hk
    cases hk
  · exact ha.listed hy hn k hk

/-- A new edge goes between new nodes. -/
theorem Apart.insertEdge (ha : Apart s t) {edges : Arena Edge}
    (he : Inserted t.edges edges i g e) (hs : s.nodes.item? e.source.index.toNat = none)
    (ht : s.nodes.item? e.target.index.toNat = none) : Apart s { t with edges } := by
  refine ⟨ha.nodes, (ha.edges.inserted he).2, ha.pins, ha.listed, fun {j d} hd hn => ?_⟩
  simp only [Arena.item?_inserted he] at hd
  split at hd
  · cases hd
    exact ⟨hs, ht⟩
  · exact ha.ends hd hn

/-! ## Creation -/

/-- What creating a node does: the node takes a slot. -/
theorem createNode_inserted (ok : t.nodes.OK) (hroom : t.nodes.slots.size < UInt32.size)
    {a : Architype} {init : List (String × Value)} (hc : t.createNode a init = .ok (t', x)) :
    ∃ nodes i g, t' = { t with nodes } ∧ x.id = .node i g ∧ x.edges = [] ∧
      Inserted t.nodes nodes i g x := by
  obtain ⟨-, fields, -, rfl, rfl⟩ := createNode_eq hc
  obtain ⟨i, g, hx, hins⟩ := Arena.insert_spec ok (fun _ => hroom)
    (fun i g => (⟨.node i g, a, fields, []⟩ : Node))
  rw [hx]
  exact ⟨_, i, g, rfl, rfl, rfl, hins⟩

/-- **A new node** leaves the edges tied, since what was found still is. -/
theorem Beside.insertNode (hb : Beside s t) {nodes : Arena Node}
    (hx : Inserted t.nodes nodes i g x) (halone : x.edges = []) :
    Beside s { t with nodes } := by
  refine ⟨hb.toApart.insertNode hx halone, fun {j e} he hn => ?_⟩
  obtain ⟨k, y, hk, hke, hy, hm⟩ := hb.tied he hn
  obtain ⟨hkind, hget⟩ := node?_eq_some.1 hy
  exact ⟨k, y, hk, hke, node?_eq_some.2 ⟨hkind, hx.keeps.get? hget⟩, hm⟩

/-- What creating an edge does: the edge takes a slot, and its ends list it. -/
theorem createEdge_inserted (ok : t.edges.OK) (hroom : t.edges.slots.size < UInt32.size)
    {a : Architype} {source target : Handle} {directed : Bool} {init : List (String × Value)}
    (hc : t.createEdge a source target directed init = .ok (t', e)) :
    (t.node? source).isSome = true ∧ (t.node? target).isSome = true ∧
      e.source = source ∧ e.target = target ∧
      ∃ i g, e.id = .edge i g ∧ Inserted t.edges t'.edges i g e ∧
        t' = (let u := ({ t with edges := t'.edges } : Store).attach source e.id
          if target = source then u else u.attach target e.id) := by
  obtain ⟨-, fields, -, hs, ht, he, hedges, -, hstore⟩ := createEdge_eq hc
  obtain ⟨i, g, hx, hins⟩ := Arena.insert_spec ok (fun _ => hroom)
    (fun i g => (⟨.edge i g, a, fields, source, target, directed⟩ : Edge))
  rw [hx] at he
  rw [← hedges] at hins hstore
  subst he
  exact ⟨hs, ht, rfl, rfl, i, g, rfl, hins, hstore⟩

theorem Apart.attach (ha : Apart s t) (hv : s.nodes.item? v.index.toNat = none)
    (hk : k.kind = .edge) (hn : s.edges.item? k.index.toNat = none) : Apart s (t.attach v k) := by
  refine ha.update hv fun x k' hk' => ?_
  rcases List.mem_append.1 hk' with hm | hm
  · exact Or.inl hm
  · rw [List.mem_singleton.1 hm]
    exact Or.inr ⟨hk, hn⟩

/-- **A new edge** between new nodes takes an empty slot. -/
theorem Apart.createEdge (ha : Apart s t) (ok : t.edges.OK)
    (hroom : t.edges.slots.size < UInt32.size) {a : Architype} {source target : Handle}
    {directed : Bool} {init : List (String × Value)}
    (hc : t.createEdge a source target directed init = .ok (t', e))
    (hs : s.nodes.item? source.index.toNat = none)
    (ht : s.nodes.item? target.index.toNat = none) : Apart s t' := by
  obtain ⟨-, -, hes, het, i, g, hid, hins, hstore⟩ := createEdge_inserted ok hroom hc
  have hk : e.id.kind = .edge := by rw [hid]; rfl
  have hempty : s.edges.item? e.id.index.toNat = none := by
    rw [hid]
    exact (ha.edges.inserted hins).1
  have hadded : Apart s { t with edges := t'.edges } :=
    ha.insertEdge hins (by rw [hes]; exact hs) (by rw [het]; exact ht)
  rw [hstore]
  simp only
  split
  · exact hadded.attach hs hk hempty
  · exact (hadded.attach hs hk hempty).attach ht hk hempty

/-- It is found at its source, if its generation names something. -/
theorem Beside.createEdge (hb : Beside s t) (ok : t.edges.OK)
    (hroom : t.edges.slots.size < UInt32.size) {a : Architype} {source target : Handle}
    {directed : Bool} {init : List (String × Value)}
    (hc : t.createEdge a source target directed init = .ok (t', e)) (hgen : e.id.gen ≠ 0)
    (hs : s.nodes.item? source.index.toNat = none)
    (ht : s.nodes.item? target.index.toNat = none) : Beside s t' := by
  obtain ⟨hsource, -, hes, -, i, g, hid, hins, -⟩ := createEdge_inserted ok hroom hc
  rw [hid] at hgen
  have hedge : ∀ {k d}, t.edge? k = some d → t'.edge? k = some d := fun hd =>
    edge?_eq_some.2 ⟨(edge?_eq_some.1 hd).1, hins.keeps.get? (edge?_eq_some.1 hd).2⟩
  -- lists only grow, and that of the source by the new edge
  have hlist : ∀ {v x}, t.node? v = some x → ∃ y, t'.node? v = some y ∧ x.edges ⊆ y.edges ∧
      (v = source → e.id ∈ y.edges) := by
    intro v x hx
    rw [node?_createEdge hc, hx]
    refine ⟨_, rfl, ?_, fun hv => ?_⟩
    · split
      · exact List.subset_append_left _ _
      · exact List.Subset.refl _
    · simp only [if_pos (Or.inl hv : v = source ∨ v = target)]
      exact List.mem_append_right _ (List.mem_singleton_self _)
  refine ⟨hb.toApart.createEdge ok hroom hc hs ht, fun {j d} hd hn => ?_⟩
  rw [Arena.item?_inserted hins] at hd
  split at hd
  · rename_i hj
    cases hd
    obtain ⟨x, hx⟩ := Option.isSome_iff_exists.1 hsource
    obtain ⟨y, hy, -, hm⟩ := hlist hx
    refine ⟨e.id, y, by rw [hid, hj]; rfl, ?_, by rw [hes]; exact hy, hm rfl⟩
    rw [hid]
    exact edge?_eq_some.2 ⟨rfl, Arena.get?_eq_some.2 ⟨hins.filled, hgen⟩⟩
  · obtain ⟨k, x, hkj, hke, hx, hm⟩ := hb.tied hd hn
    obtain ⟨y, hy, hsub, -⟩ := hlist hx
    exact ⟨k, y, hkj, hedge hke, hy, hsub hm⟩

/-! ## Deletion -/

theorem Apart.detach (ha : Apart s t) (hv : s.nodes.item? v.index.toNat = none) :
    Apart s (t.detach k v) := by
  unfold Store.detach
  split
  · exact ha.update hv fun x k' hk' => Or.inl (List.mem_of_mem_filter hk')
  · exact ha

/-- The list of a node loses the edge that is removed, and nothing else. -/
theorem removeEdge_list (k : Handle) {y : Node} (hy : (t.removeEdge k).node? v = some y) :
    ∃ x, t.node? v = some x ∧ y.edges ⊆ x.edges ∧ ∀ k' ∈ x.edges, k' ≠ k → k' ∈ y.edges := by
  have hdetach : ∀ {t : Store} {n : Handle} {y : Node}, (t.detach k n).node? v = some y →
      ∃ x, t.node? v = some x ∧ y.edges ⊆ x.edges ∧ ∀ k' ∈ x.edges, k' ≠ k → k' ∈ y.edges := by
    intro t n y hy
    rw [node?_detach] at hy
    obtain ⟨x, hx, rfl⟩ := Option.map_eq_some_iff.1 hy
    refine ⟨x, hx, ?_, fun k' hk' hne => ?_⟩
    · split
      · exact fun k' hk' => List.mem_of_mem_filter hk'
      · exact List.Subset.refl _
    · split
      · exact List.mem_filter.2 ⟨hk', bne_iff_ne.2 hne⟩
      · exact hk'
  unfold Store.removeEdge at hy
  split at hy
  · exact ⟨y, hy, List.Subset.refl _, fun k' hk' _ => hk'⟩
  · obtain ⟨x₁, hx₁, hsub₁, hkeep₁⟩ := hdetach (t := t.detach k _) hy
    obtain ⟨x, hx, hsub, hkeep⟩ := hdetach hx₁
    exact ⟨x, hx, fun k' hk' => hsub (hsub₁ hk'),
      fun k' hk' hne => hkeep₁ k' (hkeep k' hk' hne) hne⟩

theorem Apart.removeEdge (ha : Apart s t) (hk : s.edges.item? k.index.toNat = none) :
    Apart s (t.removeEdge k) := by
  unfold Store.removeEdge
  split
  · exact ha
  · rename_i e he
    obtain ⟨hs, ht⟩ := ha.ends (item?_of_edge? he) hk
    exact ((ha.detach hs).detach ht).emptyEdge hk

/-- **Removing a new edge** leaves the others tied. -/
theorem Beside.removeEdge (hb : Beside s t) (hk : s.edges.item? k.index.toNat = none) :
    Beside s (t.removeEdge k) := by
  rcases removeEdge_edges (s := t) k with ⟨-, hsame⟩ | ⟨e, he, hedges⟩
  · rw [hsame]
    exact hb
  · refine ⟨hb.toApart.removeEdge hk, fun {j d} hd hn => ?_⟩
    rw [hedges, Arena.item?_remove] at hd
    split at hd
    · cases hd
    · rename_i hj
      obtain ⟨k', x, hkj, hke, hx, hm⟩ := hb.tied hd hn
      have hne : k' ≠ k := by
        rintro rfl
        exact hj hkj
      -- the source of another edge stays, and keeps that edge on its list
      have hlive : ((t.removeEdge k).node? d.source).isSome = true := by
        rw [removeEdge_node?, hx]
        rfl
      obtain ⟨y, hy⟩ := Option.isSome_iff_exists.1 hlive
      obtain ⟨x', hx', -, hkeep⟩ := removeEdge_list k hy
      rw [hx] at hx'
      cases hx'
      refine ⟨k', y, hkj, ?_, hy, hkeep k' hm hne⟩
      rw [edge?_congr (t := { t with edges := t.edges.remove k.index }) hedges,
        edge?_remove he, if_neg hne]
      exact hke

/-- What removing an edge keeps, removing edges keeps. -/
theorem removeEdges_keep {P : Store → Prop} (hs : List Handle)
    (hstep : ∀ (t : Store), ∀ k ∈ hs, P t → P (t.removeEdge k)) :
    ∀ {t : Store}, P t → P (hs.foldl Store.removeEdge t) := by
  induction hs with
  | nil => exact fun h => h
  | cons k hs ih =>
    exact fun h => ih (fun t k hk => hstep t k (List.mem_cons_of_mem _ hk))
      (hstep _ k List.mem_cons_self h)

/-- Lists get no longer. -/
theorem removeEdges_list (hs : List Handle) {y : Node} :
    ∀ {t : Store}, (hs.foldl Store.removeEdge t).node? v = some y →
      ∃ x, t.node? v = some x ∧ y.edges ⊆ x.edges := by
  induction hs with
  | nil => exact fun hy => ⟨y, hy, List.Subset.refl _⟩
  | cons k hs ih =>
    intro t hy
    obtain ⟨x', hx', hsub'⟩ := ih hy
    obtain ⟨x, hx, hsub, -⟩ := removeEdge_list k hx'
    exact ⟨x, hx, fun k hk => hsub (hsub' hk)⟩

/-- An edge that is left when edges have been removed is none of them. -/
theorem edge?_of_removeEdges (hs : List Handle) :
    ∀ {t : Store}, (hs.foldl Store.removeEdge t).edge? k = some e →
      t.edge? k = some e ∧ k ∉ hs := by
  induction hs with
  | nil => exact fun he => ⟨he, List.not_mem_nil⟩
  | cons h hs ih =>
    intro t hleft
    obtain ⟨he, hnot⟩ := ih hleft
    have hthere : t.edge? k = some e ∧ k ≠ h := by
      rcases removeEdge_edges (s := t) h with ⟨hnone, hsame⟩ | ⟨d, hd, hedges⟩
      · rw [hsame] at he
        refine ⟨he, ?_⟩
        rintro rfl
        rw [hnone] at he
        cases he
      · rw [edge?_congr (t := { t with edges := t.edges.remove h.index }) hedges,
          edge?_remove hd] at he
        split at he
        · cases he
        · exact ⟨he, ‹_›⟩
    exact ⟨hthere.1, fun hm => (List.mem_cons.1 hm).elim hthere.2 hnot⟩

theorem Apart.deleteNode (ha : Apart s t) (hv : s.nodes.item? v.index.toNat = none)
    (hd : t.deleteNode v = .ok t') : Apart s t' := by
  obtain ⟨x, hx, -, -, rfl⟩ := deleteNode_eq hd
  exact (removeEdges_keep (P := Apart s) x.edges (fun u k hk hu =>
    hu.removeEdge (ha.listed (item?_of_node? hx) hv k hk).2) ha).emptyNode hv

/-- **Deleting a new node** leaves the edges tied, since those at it go with it. -/
theorem Beside.deleteNode (hb : Beside s t) (hv : s.nodes.item? v.index.toNat = none)
    (hd : t.deleteNode v = .ok t') : Beside s t' := by
  refine ⟨hb.toApart.deleteNode hv hd, ?_⟩
  obtain ⟨x, hx, -, -, rfl⟩ := deleteNode_eq hd
  have hb₁ := removeEdges_keep (P := Beside s) x.edges (fun u k hk hu =>
    hu.removeEdge (hb.listed (item?_of_node? hx) hv k hk).2) hb
  have hlive := removeEdges_node? x.edges v t
  rw [hx, Option.isSome_some] at hlive
  obtain ⟨x₁, hx₁⟩ := Option.isSome_iff_exists.1 hlive
  intro j e he hn
  obtain ⟨k, y, hkj, hke, hy, hm⟩ := hb₁.tied he hn
  refine ⟨k, y, hkj, hke, ?_, hm⟩
  rw [node?_remove hx₁, if_neg]
  · exact hy
  · -- an edge whose source is the node was on its list, and has been removed
    rintro rfl
    obtain ⟨x', hx', hsub⟩ := removeEdges_list x.edges hy
    rw [hx] at hx'
    cases hx'
    exact (edge?_of_removeEdges x.edges hke).2 (hsub hm)

theorem deleteNode_succeeds (hx : t.node? v = some x) (hp : v ∉ t.pins)
    (hps : ∀ k ∈ x.edges, k ∉ t.pins) : ∃ t', t.deleteNode v = .ok t' := by
  have hfree : x.edges.find? t.isPinned = none := by
    rw [List.find?_eq_none]
    intro k hk
    rw [isPinned_eq_false.2 (hps k hk)]
    exact Bool.false_ne_true
  unfold Store.deleteNode
  rw [hx]
  simp only [isPinned_eq_false.2 hp, hfree]
  exact ⟨_, rfl⟩

theorem deleteNode_worn (hd : t.deleteNode v = .ok t') :
    t.nodes.Worn Node.arch t'.nodes ∧ t.edges.Worn Edge.arch t'.edges := by
  have hshift : Shift [] t t' none := deleteNode_shift hd
  cases hshift with
  | worn hnodes hedges => exact ⟨hnodes, hedges⟩

/-- A deletion takes away the node and no other. -/
theorem deleteNode_left (hd : t.deleteNode v = .ok t') :
    (∀ h, (t'.node? h).isSome = true ↔ (t.node? h).isSome = true ∧ h ≠ v) ∧
      ∀ j, (t'.nodes.item? j).isSome = true →
        (t.nodes.item? j).isSome = true ∧ j ≠ v.index.toNat := by
  obtain ⟨x, hx, -, -, rfl⟩ := deleteNode_eq hd
  have hlive := removeEdges_node? x.edges v t
  rw [hx, Option.isSome_some] at hlive
  obtain ⟨x₁, hx₁⟩ := Option.isSome_iff_exists.1 hlive
  refine ⟨fun h => ?_, fun j hj => ?_⟩
  · rw [node?_remove hx₁]
    split
    · rename_i heq
      simp [heq]
    · rename_i hne
      rw [removeEdges_node?]
      exact ⟨fun h => ⟨h, hne⟩, And.left⟩
  · simp only [Arena.item?_remove] at hj
    split at hj
    · cases hj
    · exact ⟨(removeEdges_worn x.edges t).1.isSome_item? hj, Ne.symm ‹_›⟩

/-! ## What is left -/

/-- **Nodes and edges are those that were there**, in the same order, just if no new node is
left. -/
theorem Beside.unchanged_iff (hb : Beside s t) :
    (t.allNodes = s.allNodes ∧ t.allEdges = s.allEdges) ↔
      ∀ j, s.nodes.item? j = none → t.nodes.item? j = none := by
  unfold allNodes allEdges
  rw [hb.nodes.items_eq_iff, hb.edges.items_eq_iff, and_iff_left_iff_imp]
  intro hnodes j hj
  cases he : t.edges.item? j with
  | none => rfl
  | some e =>
    -- a new edge would be listed at a new node
    obtain ⟨-, x, -, -, hx, -⟩ := hb.tied he hj
    have := hnodes _ (hb.ends he hj).1
    rw [item?_of_node? hx] at this
    cases this

end Store

end GraphWalk
