import GraphWalk.Proofs.Store.Records
import GraphWalk.Proofs.Store.Stale

/-!
# Which handles are given out

A slot goes through its generations in the order one, two, …, `2^32 - 1`, zero, and is
stuck in the last one. `Arena.uses` counts the items that a slot has held. As long as an
arena has fewer than `2^32` slots, the handles given out by a run are those that these
counts allow (`Books`): no handle is given out twice, and the number of handles of a
slot tells the generation of the next one. The first generation is that of a fresh slot, so
edges of that generation are in the order of their slots (`InTurn`).

Main result: `issued_of_run`. **A new instance has a handle of its own, and can be
reached, pinned, connected and deleted by it, except for the last item of a slot**,
the one after `2^32 - 1` others: its handle is nil and reaches nothing.
`last_of_slot_unreachable` is a run that gets there.
-/

namespace GraphWalk

/-- The place of a generation in the order in which a slot goes through them. -/
def age (g : UInt32) : Nat := if g = 0 then UInt32.size else g.toNat

theorem age_eq_size {g : UInt32} : age g = UInt32.size ↔ g = 0 := by
  have := g.toNat_lt_size
  unfold age
  split
  · simp_all
  · simp_all
    omega

theorem age_of_ne {g : UInt32} (h : g ≠ 0) : age g = g.toNat := if_neg h

theorem age_pos (g : UInt32) : 0 < age g := by
  unfold age
  split
  · decide
  · rename_i h
    exact Nat.pos_of_ne_zero fun h0 => h (UInt32.toNat_inj.1 h0)

theorem age_inj {g g' : UInt32} (h : age g = age g') : g = g' := by
  by_cases h0 : g = 0
  · rw [h0]
    exact (age_eq_size.1 (h.symm.trans (age_eq_size.2 h0))).symm
  · have h0' : g' ≠ 0 := fun h' => h0 (age_eq_size.1 (h.trans (age_eq_size.2 h')))
    rw [age_of_ne h0, age_of_ne h0'] at h
    exact UInt32.toNat_inj.1 h

/-- The generation after a nonzero one is one older, also where it wraps. -/
theorem age_succ {g : UInt32} (h : g ≠ 0) : age (g + 1) = age g + 1 := by
  rw [age_of_ne h]
  have hlt := g.toNat_lt_size
  by_cases hg : g.toNat + 1 < UInt32.size
  · have hs := Arena.succ_toNat hg
    rw [age_of_ne, hs]
    rintro h0
    rw [h0] at hs
    simp at hs
  · have hz : g + 1 = 0 := by
      apply UInt32.toNat_inj.1
      rw [UInt32.toNat_add, show g.toNat + UInt32.toNat 1 = UInt32.size by
        rw [UInt32.toNat_one]; omega]
      rfl
    rw [hz, age_eq_size.2 rfl]
    omega

/-- The number of items that a slot has held, the one in it included. -/
def Slot.uses {α : Type} (slot : Slot α) : Nat :=
  if slot.item.isSome then age slot.gen else age slot.gen - 1

namespace Arena

variable {α β : Type} {kept : α → β} {a b : Arena α} {i g : UInt32} {x : α}
  {kind : HandleKind} {issued : List Handle}

/-- The number of items that the slot at an index has held. -/
def uses (a : Arena α) (i : UInt32) : Nat := ((a.slots[i.toNat]?).map Slot.uses).getD 0

theorem uses_of_slot {slot : Slot α} (h : a.slots[i.toNat]? = some slot) :
    a.uses i = slot.uses := by
  unfold uses
  rw [h]
  rfl

/-- An insertion takes the generation that its slot has come to. -/
theorem uses_inserted (h : Inserted a b i g x) :
    a.uses i + 1 = age g ∧ ∀ j, b.uses j = if j = i then age g else a.uses j := by
  have hpos := age_pos g
  refine ⟨?_, fun j => ?_⟩
  · rcases h.vacant with hv | ⟨hv, rfl⟩
    · rw [uses_of_slot hv]
      show age g - 1 + 1 = age g
      omega
    · unfold uses
      rw [Array.getElem?_eq_none hv.le]
      rfl
  · by_cases hj : j = i
    · subst hj
      have hs : b.slots[j.toNat]? = some ⟨g, some x⟩ := by rw [h.slot, if_pos rfl]
      rw [if_pos rfl, uses_of_slot hs]
      rfl
    · rw [if_neg hj]
      unfold uses
      rw [h.slot, if_neg (toNat_ne hj)]

theorem uses_update (i : UInt32) (f : α → α) (j : UInt32) : (a.update i f).uses j = a.uses j := by
  unfold uses update
  simp only [Array.getElem?_modify]
  split
  · cases a.slots[j.toNat]? with
    | none => rfl
    | some slot => simp [Slot.uses]
  · rfl

/-- A removal counts the generation up, and the slot has held no more for it. -/
theorem uses_remove (hx : a.get? i g = some x) (j : UInt32) : (a.remove i).uses j = a.uses j := by
  obtain ⟨hs, h0⟩ := get?_eq_some.1 hx
  by_cases hj : j = i
  · subst hj
    have hr : (a.remove j).slots[j.toNat]? = some ⟨g + 1, none⟩ := by
      simp [remove, Array.getElem?_modify, hs]
    rw [uses_of_slot hs, uses_of_slot hr]
    show age (g + 1) - 1 = age g
    rw [age_succ h0]
    omega
  · unfold uses remove
    simp only [Array.getElem?_modify]
    rw [if_neg (toNat_ne hj).symm]

theorem Worn.uses (h : a.Worn kept b) (j : UInt32) : b.uses j = a.uses j := by
  induction h with
  | refl => rfl
  | update i _ _ ih => rw [uses_update, ih]
  | remove _ hx ih => rw [uses_remove hx, ih]

theorem Worn.ok (h : a.Worn kept b) (ok : a.OK) : b.OK := by
  induction h with
  | refl => exact ok
  | update i _ _ ih => exact ih.update i _
  | remove _ hx ih => exact ih.remove hx

/-- The handles that name `kind` among those given out are those that the slots of `a`
have come to, each slot's as many as it has held items. -/
structure Ledger (kind : HandleKind) (issued : List Handle) (a : Arena α) : Prop where
  mem : ∀ i g, (⟨kind, i, g⟩ : Handle) ∈ issued ↔ age g ≤ a.uses i
  count : ∀ i, issued.countP (fun h => h.kind = kind ∧ h.index = i) = a.uses i

theorem Ledger.congr (hl : Ledger kind issued a) (hu : ∀ i, b.uses i = a.uses i) :
    Ledger kind issued b :=
  ⟨fun i g => by rw [hu]; exact hl.mem i g, fun i => by rw [hu]; exact hl.count i⟩

/-- A handle of another kind is on another ledger. -/
theorem Ledger.append_other (hl : Ledger kind issued a) {h : Handle} (hk : h.kind ≠ kind) :
    Ledger kind (issued ++ [h]) a := by
  refine ⟨fun i g => ?_, fun i => ?_⟩
  · rw [List.mem_append, List.mem_singleton, hl.mem, or_iff_left]
    rintro rfl
    exact hk rfl
  · rw [List.countP_append, List.countP_singleton, hl.count, if_neg]
    · rfl
    · simp [hk]

/-- **An insertion gives out the next handle of its slot**, a new one. -/
theorem Ledger.inserted (hl : Ledger kind issued a) (hx : Inserted a b i g x) :
    Ledger kind (issued ++ [⟨kind, i, g⟩]) b := by
  obtain ⟨hage, huses⟩ := uses_inserted hx
  refine ⟨fun j k => ?_, fun j => ?_⟩
  · rw [List.mem_append, List.mem_singleton, hl.mem, huses]
    by_cases hj : j = i
    · subst hj
      rw [if_pos rfl]
      constructor
      · rintro (hk | hk)
        · omega
        · cases hk
          exact le_rfl
      · intro hk
        rcases Nat.lt_or_ge (age k) (age g) with hlt | hge
        · exact Or.inl (by omega)
        · right
          rw [age_inj (le_antisymm hk hge)]
    · rw [if_neg hj, or_iff_left]
      rintro hk
      cases hk
      exact hj rfl
  · rw [List.countP_append, List.countP_singleton, hl.count, huses]
    by_cases hj : j = i
    · subst hj
      simpa using hage
    · simp [hj, Ne.symm hj]

/-- The handle that an insertion takes was not given out before. -/
theorem Ledger.not_mem (hl : Ledger kind issued a) (hx : Inserted a b i g x) :
    (⟨kind, i, g⟩ : Handle) ∉ issued := by
  have hage := (uses_inserted hx).1
  rw [hl.mem]
  omega

/-- The generation has wrapped to zero just if the slot has held an item of every other. -/
theorem Ledger.count_iff (hl : Ledger kind issued a) (hx : Inserted a b i g x) :
    issued.countP (fun h => h.kind = kind ∧ h.index = i) = 2 ^ 32 - 1 ↔ g = 0 := by
  have hage := (uses_inserted hx).1
  rw [hl.count, ← age_eq_size, ← hage]
  show _ ↔ a.uses i + 1 = 2 ^ 32
  omega

/-- What is found under an index and a generation was given out under them. -/
theorem Ledger.mem_of_get? (hl : Ledger kind issued a) (hx : a.get? i g = some x) :
    (⟨kind, i, g⟩ : Handle) ∈ issued := by
  rw [hl.mem, uses_of_slot (get?_eq_some.1 hx).1]
  exact le_rfl

/-- Slots are never given up. -/
theorem Ages.size_le (h : a.Ages b) : a.slots.size ≤ b.slots.size := by
  rcases Nat.eq_zero_or_pos a.slots.size with h0 | hpos
  · omega
  · have hlast : a.slots.size - 1 < a.slots.size := by omega
    obtain ⟨slot', hs, -⟩ := h _ _ (Array.getElem?_eq_getElem hlast)
    have := lt_size hs
    omega

/-- Every slot has held an item. -/
def Tried (a : Arena α) : Prop := ∀ i : UInt32, i.toNat < a.slots.size → 0 < a.uses i

/-- Changes and removals keep all slots. -/
theorem Worn.size_eq (h : a.Worn kept b) : b.slots.size = a.slots.size := by
  induction h with
  | refl => rfl
  | update i _ _ ih => simpa [Arena.update] using ih
  | remove _ _ ih => simpa [Arena.remove] using ih

theorem Tried.worn (ht : a.Tried) (h : a.Worn kept b) : b.Tried := by
  intro i hi
  rw [h.uses]
  exact ht i (h.size_eq ▸ hi)

theorem Tried.inserted (ht : a.Tried) (h : Inserted a b i g x) : b.Tried := by
  intro j hj
  rw [(uses_inserted h).2]
  split
  · exact age_pos g
  · rename_i hne
    -- any other slot was there before, also if the one that is filled is fresh
    have hne' := toNat_ne hne
    have hsize := h.size_le
    rcases h.vacant with hv | ⟨hv, -⟩
    · have := lt_size hv
      exact ht j (by omega)
    · exact ht j (by omega)

/-- Only a fresh slot gives out the first generation, and it stands behind the others. -/
theorem Tried.size_le (ht : a.Tried) (h : Inserted a b i g x) (hg : g = 1) :
    a.slots.size ≤ i.toNat := by
  by_contra hlt
  have hpos := ht i (by omega)
  have hage : a.uses i + 1 = age 1 := hg ▸ (uses_inserted h).1
  have hone : age 1 = 1 := rfl
  omega

end Arena

namespace Store

open Arena (Ledger Inserted)

variable {s s' : Store} {h : Handle} {issued : List Handle} {r : Option Handle}

/-- The handles that the creations of a run have returned, in order. -/
def returned : Store → List Operation → List Handle
  | _, [] => []
  | s, op :: ops => (s.returned? op).toList ++ returned (s.perform op) ops

/-- **The books of a store** agree with the handles it has given out, and only these are
pinned. -/
structure Books (issued : List Handle) (s : Store) : Prop where
  nodes_ok : s.nodes.OK
  edges_ok : s.edges.OK
  nodes : Ledger .node issued s.nodes
  edges : Ledger .edge issued s.edges
  pins : ∀ h ∈ s.pins, h ∈ issued

/-- What is live was given out. -/
theorem Books.mem_of_contains (hb : s.Books issued) (hc : s.contains h = true) : h ∈ issued := by
  cases h with | mk kind index gen
  rcases contains_iff.1 hc with hc | hc
  · obtain ⟨n, hn⟩ := Option.isSome_iff_exists.1 hc
    obtain ⟨rfl, hg⟩ := node?_eq_some.1 hn
    exact hb.nodes.mem_of_get? hg
  · obtain ⟨e, he⟩ := Option.isSome_iff_exists.1 hc
    obtain ⟨rfl, hg⟩ := edge?_eq_some.1 he
    exact hb.edges.mem_of_get? hg

theorem empty_books : empty.Books [] := by
  have hl : ∀ {α : Type} {kind : HandleKind}, Ledger kind [] (Arena.empty : Arena α) :=
    fun {_ _} => ⟨fun i g => by
      have := age_pos g
      simp [Arena.uses, Arena.empty]
      omega, fun i => rfl⟩
  exact ⟨empty_ok.slots.nodes, empty_ok.slots.edges, hl, hl, fun h hm => by cases hm⟩

/-- **An operation keeps the books**, as long as there are indices left. -/
theorem Books.perform (hb : s.Books issued) (hn : s.nodes.slots.size < UInt32.size)
    (he : s.edges.slots.size < UInt32.size) (op : Operation) :
    (s.perform op).Books (issued ++ (s.returned? op).toList) := by
  have hpins : ∀ h ∈ (s.perform op).pins, h ∈ issued := fun h hm =>
    (perform_pins s op h hm).elim (hb.pins h) hb.mem_of_contains
  have hshift := perform_shift s op
  generalize s.perform op = s' at hpins hshift ⊢
  generalize s.returned? op = r at hshift ⊢
  have hpins' : ∀ h ∈ s'.pins, h ∈ issued ++ r.toList := fun h hm =>
    List.mem_append_left _ (hpins h hm)
  cases hshift with
  | worn hnodes hedges =>
    rw [Option.toList_none, List.append_nil]
    exact ⟨hnodes.ok hb.nodes_ok, hedges.ok hb.edges_ok, hb.nodes.congr hnodes.uses,
      hb.edges.congr hedges.uses, hpins⟩
  | node make named _ hnodes hedges =>
    obtain ⟨i, g, hx, hins⟩ := Arena.insert_spec hb.nodes_ok (fun _ => hn) make
    rw [hx, named] at hpins' ⊢
    refine ⟨?_, hedges ▸ hb.edges_ok, ?_, ?_, hpins'⟩
    · rw [hnodes]; exact hb.nodes_ok.inserted hins
    · rw [hnodes]; exact hb.nodes.inserted hins
    · rw [hedges]; exact hb.edges.append_other HandleKind.noConfusion
  | edge make named _ hnodes hedges =>
    obtain ⟨i, g, hx, hins⟩ := Arena.insert_spec hb.edges_ok (fun _ => he) make
    rw [hx, named] at hpins' ⊢
    refine ⟨hnodes.ok hb.nodes_ok, ?_, ?_, ?_, hpins'⟩
    · rw [hedges]; exact hb.edges_ok.inserted hins
    · exact (hb.nodes.congr hnodes.uses).append_other HandleKind.noConfusion
    · rw [hedges]; exact hb.edges.inserted hins

/-- **A run keeps the books.** Slots are never given up, so there were indices left all
the time if there are some at the end. -/
theorem Books.run (ops : List Operation) :
    ∀ {s : Store} {issued : List Handle}, s.Books issued →
      (s.run ops).nodes.slots.size < UInt32.size → (s.run ops).edges.slots.size < UInt32.size →
        (s.run ops).Books (issued ++ s.returned ops) := by
  induction ops with
  | nil =>
    intro s issued hb _ _
    rw [returned, List.append_nil]
    exact hb
  | cons op ops ih =>
    intro s issued hb hn he
    obtain ⟨hnodes, hedges⟩ := run_ages (op :: ops) s
    have := ih (hb.perform (lt_of_le_of_lt hnodes.size_le hn) (lt_of_le_of_lt hedges.size_le he) op)
      hn he
    rw [List.append_assoc] at this
    exact this

/-! ## Edges in fresh slots -/

section InTurn

variable {created : List Handle} {n : Nat}

/-- **Edges in fresh slots are created in turn**: their slots come after those of the edges that
were created before. -/
structure InTurn (created : List Handle) (s : Store) : Prop where
  tried : s.edges.Tried
  rising : created.Pairwise fun k k' => k'.gen = 1 → k.index < k'.index

theorem empty_inTurn : empty.InTurn [] :=
  ⟨fun _ hi => absurd hi (Nat.not_lt_zero _), List.Pairwise.nil⟩

/-- An edge is created in its turn. -/
theorem InTurn.createEdge (ht : s.InTurn created) (ok : s.OK n created) (hn : n < UInt32.size - 1)
    {a : Architype} {source target : Handle} {directed : Bool} {init : List (String × Value)}
    {e : Edge} (hc : s.createEdge a source target directed init = .ok (s', e)) :
    s'.InTurn (created ++ [e.id]) := by
  obtain ⟨-, fields, -, -, -, he, hedges, -, -⟩ := createEdge_eq hc
  obtain ⟨i, g, hx, hins⟩ := Arena.insert_spec ok.slots.edges
    (ok.slots.edges_young.roomy (by omega))
    (fun i g => (⟨.edge i g, a, fields, source, target, directed⟩ : Edge))
  rw [hx] at he
  refine ⟨?_, List.pairwise_append.2 ⟨ht.rising, List.pairwise_singleton _ _, ?_⟩⟩
  · rw [hedges]
    exact ht.tried.inserted hins
  · intro k hk k' hk' hg
    obtain rfl := List.mem_singleton.1 hk'
    rw [he] at hg ⊢
    -- whatever was created before has a slot, and so is before the fresh one
    obtain ⟨slot, hslot, -⟩ := ok.joined.spent k hk
    have hlt := Arena.lt_size hslot
    have hle := ht.tried.size_le hins hg
    exact UInt32.lt_iff_toNat_lt.2 (hlt.trans_le hle)

/-- **Every operation** keeps the turns: what creates no edge gives out no slot for one. -/
theorem InTurn.perform (ht : s.InTurn created) (ok : s.OK n created) (hn : n < UInt32.size - 1)
    (op : Operation) : (s.perform op).InTurn (created ++ (s.newEdge? op).toList) := by
  have worn : s.edges.Worn Edge.arch (s.perform op).edges → s.newEdge? op = none →
      (s.perform op).InTurn (created ++ (s.newEdge? op).toList) := by
    intro hw hnone
    rw [hnone, Option.toList_none, List.append_nil]
    exact ⟨ht.tried.worn hw, ht.rising⟩
  have kept : s.returned? op = none → s.newEdge? op = none →
      (s.perform op).InTurn (created ++ (s.newEdge? op).toList) := by
    intro hnone
    have hshift := perform_shift s op
    rw [hnone] at hshift
    cases hshift with
    | worn _ he => exact worn he
  cases op with
  | edit e =>
    cases e with
    | createNode a init =>
      refine worn ?_ rfl
      show s.edges.Worn Edge.arch (s.orKeep _).edges
      cases hc : s.createNode a init with
      | error err => exact .refl
      | ok p =>
        obtain ⟨-, fields, -, hs, -⟩ := createNode_eq hc
        show s.edges.Worn Edge.arch p.1.edges
        rw [hs]
        exact .refl
    | createEdge a source target directed init =>
      show (s.orKeep _).InTurn (created ++ ((s.createEdge a source target directed init).toOption.map
        _).toList)
      cases hc : s.createEdge a source target directed init with
      | error err =>
        show s.InTurn (created ++ [])
        rw [List.append_nil]
        exact ht
      | ok p => exact ht.createEdge ok hn hc
    | deleteNode h => exact kept rfl rfl
    | deleteEdge h => exact kept rfl rfl
    | delete h => exact kept rfl rfl
    | setFields h f => exact kept rfl rfl
  | pin h => exact kept rfl rfl
  | unpin h => exact kept rfl rfl

/-- **A run keeps the turns** while fewer than `2^32 - 1` calls are made. -/
theorem InTurn.run (ops : List Operation) : ∀ {s : Store} {n : Nat} {created : List Handle},
    s.InTurn created → s.OK n created → n + calls ops < UInt32.size - 1 →
      (s.run ops).InTurn (created ++ s.createdEdges ops) := by
  induction ops with
  | nil =>
    intro s n created ht _ _
    simpa [Store.run, createdEdges] using ht
  | cons op ops ih =>
    intro s n created ht ok hn
    rw [calls_cons] at hn
    have := ih (ht.perform ok (by omega) op) (perform_ok ok (by omega) op) (by omega)
    rwa [List.append_assoc] at this

end InTurn

/-! ## New instances -/

/-- A new node answers to its handle, and can be pinned, connected with every node, and
deleted. -/
structure NodeReachable (s : Store) (n : Node) : Prop where
  not_nil : n.id.isNil = false
  node : s.node n.id = .ok n
  instanceAt : s.instanceAt n.id = .ok (.node n)
  contains : s.contains n.id = true
  pin : ∃ t, s.pin n.id = .ok t
  connect : ∀ (a : Architype) (v : Handle) (directed : Bool) (init : List (String × Value))
    (fields : Fields), a.kind = .edge → initialFields a init = .ok fields →
      (s.node? v).isSome = true →
        (∃ r, s.createEdge a n.id v directed init = .ok r) ∧
          ∃ r, s.createEdge a v n.id directed init = .ok r
  deleteNode : ∃ t, s.deleteNode n.id = .ok t
  delete : ∃ t, s.delete n.id = .ok t

/-- A new edge answers to its handle, and can be pinned and deleted. -/
structure EdgeReachable (s : Store) (e : Edge) : Prop where
  not_nil : e.id.isNil = false
  edge : s.edge e.id = .ok e
  instanceAt : s.instanceAt e.id = .ok (.edge e)
  contains : s.contains e.id = true
  pin : ∃ t, s.pin e.id = .ok t
  deleteEdge : ∃ t, s.deleteEdge e.id = .ok t
  delete : ∃ t, s.delete e.id = .ok t

theorem nodeReachable {n : Node} (hk : n.id.kind = .node) (hg : n.id.gen ≠ 0)
    (hn : s.node? n.id = some n) (hp : n.id ∉ s.pins) (hedges : n.edges = []) :
    s.NodeReachable n := by
  have hnode : s.node n.id = .ok n := node_eq_ok.2 hn
  have hne : n.id.kind ≠ .edge := by rw [hk]; decide
  have hinst : s.instanceAt n.id = .ok (.node n) := by
    unfold Store.instanceAt
    rw [if_neg hne, hnode]
    rfl
  have hdelete : ∃ t, s.deleteNode n.id = .ok t := by
    unfold Store.deleteNode
    simp [hn, isPinned_eq_false.2 hp, hedges]
  have hcreate : ∀ {a : Architype} {source target : Handle} {init : List (String × Value)}
      {fields : Fields} (directed : Bool), a.kind = .edge → initialFields a init = .ok fields →
      (s.node? source).isSome = true → (s.node? target).isSome = true →
        ∃ r, s.createEdge a source target directed init = .ok r := by
    intro a source target init fields directed ha hf hs ht
    obtain ⟨x, hx⟩ := Option.isSome_iff_exists.1 hs
    obtain ⟨y, hy⟩ := Option.isSome_iff_exists.1 ht
    unfold createEdge
    simp [ha, hf, hx, hy]
  have hlive : (s.node? n.id).isSome = true := by rw [hn]; rfl
  refine ⟨?_, hnode, hinst, contains_iff.2 (Or.inl hlive), ?_, ?_, hdelete, ?_⟩
  · simp [Handle.isNil, hg, hk]
  · unfold Store.pin
    rw [hinst]
    exact ⟨_, rfl⟩
  · intro a v directed init fields ha hf hv
    exact ⟨hcreate directed ha hf hlive hv, hcreate directed ha hf hv hlive⟩
  · unfold Store.delete
    rw [if_neg hne]
    exact hdelete

theorem edgeReachable {e : Edge} (hk : e.id.kind = .edge) (hg : e.id.gen ≠ 0)
    (he : s.edge? e.id = some e) (hp : e.id ∉ s.pins) : s.EdgeReachable e := by
  have hedge : s.edge e.id = .ok e := edge_eq_ok.2 he
  have hinst : s.instanceAt e.id = .ok (.edge e) := by
    unfold Store.instanceAt
    rw [if_pos hk, hedge]
    rfl
  have hdelete : ∃ t, s.deleteEdge e.id = .ok t := by
    unfold Store.deleteEdge
    simp [he, isPinned_eq_false.2 hp]
  refine ⟨?_, hedge, hinst, contains_iff.2 (Or.inr (by rw [he]; rfl)), ?_, hdelete, ?_⟩
  · simp [Handle.isNil, hg, hk]
  · unfold Store.pin
    rw [hinst]
    exact ⟨_, rfl⟩
  · unfold Store.delete
    rw [if_pos hk]
    exact hdelete

/-- What is to be said of a handle `h` that a creation returns after others: it is new,
and the instance can be reached by it unless `2^32 - 1` instances were in its slot before. -/
structure Issued (issued : List Handle) (h : Handle) (s : Store) (reachable : Prop) : Prop where
  fresh : h ∉ issued
  reachable : issued.countP (fun k => k.kind = h.kind ∧ k.index = h.index) ≠ 2 ^ 32 - 1 → reachable
  last : issued.countP (fun k => k.kind = h.kind ∧ k.index = h.index) = 2 ^ 32 - 1 →
    h.isNil = true ∧ s.Gone h

/-- **Nothing is found under generation zero.** -/
theorem gone_of_gen (hg : h.gen = 0) : s.Gone h := by
  refine gone_of_dead ?_ ?_
  · cases hn : s.node? h with
    | none => rfl
    | some n => exact absurd hg (Arena.get?_eq_some.1 (node?_eq_some.1 hn).2).2
  · cases he : s.edge? h with
    | none => rfl
    | some e => exact absurd hg (Arena.get?_eq_some.1 (edge?_eq_some.1 he).2).2

/-- **A new instance**: its handle was not given out before, and reaches it unless
`2^32 - 1` instances were in its slot before. -/
theorem issued_of_run (ops : List Operation)
    (hn : (empty.run ops).nodes.slots.size < 2 ^ 32)
    (he : (empty.run ops).edges.slots.size < 2 ^ 32) :
    (∀ (a : Architype) (init : List (String × Value)) (s' : Store) (n : Node),
      (empty.run ops).createNode a init = .ok (s', n) →
        Issued (empty.returned ops) n.id s' (s'.NodeReachable n)) ∧
    ∀ (a : Architype) (source target : Handle) (directed : Bool)
      (init : List (String × Value)) (s' : Store) (e : Edge),
      (empty.run ops).createEdge a source target directed init = .ok (s', e) →
        Issued (empty.returned ops) e.id s' (s'.EdgeReachable e) := by
  have hb := empty_books.run ops hn he
  rw [List.nil_append] at hb
  generalize empty.run ops = s at hb hn he ⊢
  refine ⟨?_, ?_⟩
  · intro a init s' n hc
    obtain ⟨-, fields, -, rfl, rfl⟩ := createNode_eq hc
    obtain ⟨i, g, hx, hins⟩ := Arena.insert_spec hb.nodes_ok (fun _ => hn)
      (fun i g => (⟨.node i g, a, fields, []⟩ : Node))
    have hfresh : Handle.node i g ∉ empty.returned ops := hb.nodes.not_mem hins
    have hcount := hb.nodes.count_iff hins
    rw [hx]
    refine ⟨hfresh, fun hne => ?_, fun hlast => ?_⟩
    · have hg : g ≠ 0 := fun h0 => hne (hcount.2 h0)
      refine nodeReachable rfl hg ?_ (fun hp => hfresh (hb.pins _ hp)) rfl
      rw [node?_inserted hins hg]
      exact if_pos rfl
    · have hg : g = 0 := hcount.1 hlast
      exact ⟨by simp [Handle.isNil, Handle.node, hg], gone_of_gen hg⟩
  · intro a source target directed init s' e hc
    obtain ⟨-, fields, -, -, -, he', hedges, hpins, -⟩ := createEdge_eq hc
    obtain ⟨i, g, hx, hins⟩ := Arena.insert_spec hb.edges_ok (fun _ => he)
      (fun i g => (⟨.edge i g, a, fields, source, target, directed⟩ : Edge))
    have hfresh : Handle.edge i g ∉ empty.returned ops := hb.edges.not_mem hins
    have hcount := hb.edges.count_iff hins
    rw [hx] at he'
    subst he'
    refine ⟨hfresh, fun hne => ?_, fun hlast => ?_⟩
    · have hg : g ≠ 0 := fun h0 => hne (hcount.2 h0)
      refine edgeReachable rfl hg ?_ (fun hp => hfresh (hb.pins _ (hpins ▸ hp)))
      rw [edge?_congr (t := { s with edges := _ }) hedges, edge?_inserted hins hg]
      exact if_pos rfl
    · have hg : g = 0 := hcount.1 hlast
      exact ⟨by simp [Handle.isNil, Handle.edge, hg], gone_of_gen hg⟩

/-- A slot is used again; the handle in it is a new one, and reaches the new node. -/
theorem issued_reuse :
    let node := Architype.new "m" ⟨.node, "N"⟩
    let ops : List Operation := [.edit (.createNode node []), .edit (.delete (.node 0 1))]
    (empty.run ops).nodes.slots.size < 2 ^ 32 ∧ (empty.run ops).edges.slots.size < 2 ^ 32 ∧
      ∃ s' n, (empty.run ops).createNode node [] = .ok (s', n) ∧ n.id = .node 0 2 ∧
        Issued [.node 0 1] n.id s' (s'.NodeReachable n) := by
  intro node ops
  have hn : (empty.run ops).nodes.slots.size < 2 ^ 32 := by decide
  have he : (empty.run ops).edges.slots.size < 2 ^ 32 := by decide
  exact ⟨hn, he, _, _, rfl, rfl, (issued_of_run ops hn he).1 node [] _ _ rfl⟩

/-! ## The last item of a slot -/

/-- An architype without fields. -/
def plain : Architype := .new "m" ⟨.node, "N"⟩

/-- Nodes are created and deleted one after the other, all in one slot. -/
def wearOut (k : Nat) : List Operation :=
  (List.range k).flatMap fun i =>
    [.edit (.createNode plain []), .edit (.deleteNode (.node 0 (i + 1).toUInt32))]

/-- A store with one slot, which is empty. -/
def worn (g : UInt32) : Store := ⟨⟨#[⟨g, none⟩], [0], 0⟩, .empty, []⟩

/-- The node that is made in the slot. -/
def wornNode (g : UInt32) (fields : Fields) : Node := ⟨.node 0 g, plain, fields, []⟩

/-- The slot is filled under its generation. -/
theorem createNode_worn (g : UInt32) : ∃ fields, (worn g).createNode plain [] =
    .ok (⟨⟨#[⟨g, some (wornNode g fields)⟩], [], 1⟩, .empty, []⟩, wornNode g fields) :=
  ⟨_, rfl⟩

theorem run_worn {g : UInt32} (hg : g ≠ 0) :
    (worn g).run [.edit (.createNode plain []), .edit (.deleteNode (.node 0 g))] =
      worn (g + 1) := by
  obtain ⟨fields, hc⟩ := createNode_worn g
  set t : Store := ⟨⟨#[⟨g, some (wornNode g fields)⟩], [], 1⟩, .empty, []⟩ with ht
  have hn : t.node? (.node 0 g) = some (wornNode g fields) :=
    node?_eq_some.2 ⟨rfl, Arena.get?_eq_some.2 ⟨rfl, hg⟩⟩
  have hd : t.deleteNode (.node 0 g) = .ok (worn (g + 1)) := by
    unfold deleteNode
    rw [hn]
    rfl
  have hedit : (worn g).edit (.createNode plain []) = t := by
    simp only [edit, hc]
    rfl
  show ((worn g).edit (.createNode plain [])).edit (.deleteNode (.node 0 g)) = _
  rw [hedit]
  simp only [edit, hd]
  rfl

/-- However often the slot has been used, its generation is one beyond. -/
theorem run_wearOut (k : Nat) (hk : k + 1 < UInt32.size) :
    empty.run (wearOut (k + 1)) = worn (k + 2).toUInt32 := by
  induction k with
  | zero => rfl
  | succ k ih =>
    have hg : ((k + 2).toUInt32 : UInt32) ≠ 0 := by
      intro h0
      have := congrArg UInt32.toNat h0
      rw [Arena.toNat_toUInt32 hk] at this
      simp at this
    have hsucc : wearOut (k + 2) = wearOut (k + 1) ++
        [.edit (.createNode plain []), .edit (.deleteNode (.node 0 (k + 2).toUInt32))] := by
      unfold wearOut
      rw [List.range_succ, List.flatMap_append]
      rfl
    rw [hsucc, run_append, ih (Nat.lt_of_succ_lt hk), run_worn hg]
    congr 1
    apply UInt32.toNat_inj.1
    simp [UInt32.toNat_add]

theorem run_wearOut_size {n : Nat} (hn : n + 1 = UInt32.size) :
    empty.run (wearOut n) = worn 0 := by
  have h1 : 1 < UInt32.size := by decide
  obtain ⟨k, rfl⟩ : ∃ k, n = k + 1 := Nat.exists_eq_succ_of_ne_zero (by omega)
  rw [run_wearOut k (by omega)]
  congr 1
  apply UInt32.toNat_inj.1
  simp [hn]

/-- **The last item of a slot cannot be reached.** After `2^32 - 1` others the handle of a
new node is nil. -/
theorem last_of_slot_unreachable :
    let s := empty.run (wearOut (2 ^ 32 - 1))
    s.nodes.slots.size < 2 ^ 32 ∧ s.edges.slots.size < 2 ^ 32 ∧ ∃ s' n,
      s.createNode plain [] = .ok (s', n) ∧ n.id.isNil = true ∧ s'.Gone n.id := by
  have hs : empty.run (wearOut (2 ^ 32 - 1)) = worn 0 := run_wearOut_size rfl
  obtain ⟨fields, hc⟩ := createNode_worn 0
  rw [hs]
  exact ⟨by decide, by decide, _, _, hc, rfl, gone_of_gen rfl⟩

end Store

end GraphWalk
