import GraphWalk.Proofs.Snapshot.Restore
import GraphWalk.Proofs.Store.Beside
import GraphWalk.Proofs.Store.Held

/-!
# What a failed restoring leaves

What has been created before a fault is known only by the handle map, in which each text of the
snapshot stands for one handle. When a fault stops the restoring, the nodes that are found in the
map are deleted, with the edges at them. A node whose text has been entered again since then is
not found, and stays. So does what was made as the last item of a slot, under generation 0, since
that names nothing.

`Grown` says what restoring has made of a store so far, and of which texts; `restoreNodes_grown`
and `restoreEdges_grown` keep it along the way. `Undone` says what deleting leaves, and
`rollback_undone` says it of all handles of the map, for any order of them. `entered_iff` says
which nodes are in the map.

Main result: `unchanged_of_failure`. **A failed restoring leaves what was there as it was, and
leaves nothing else just if all that was made could be found, and no text of a node that was made
is that of another instance made after it.**
-/

namespace GraphWalk

/-! ## What an arena gains -/

namespace Arena

variable {α : Type} {kind : HandleKind} {a b c : Arena α} {hs : List Handle} {h : Handle}
  {i g : UInt32} {x : α}

/-- **What `b` has gained over `a`**: items in slots that are empty in `a`, under the handles
`hs`. -/
structure Gained (kind : HandleKind) (a b : Arena α) (hs : List Handle) : Prop where
  ok : b.OK
  size_le : b.slots.size ≤ a.slots.size + hs.length
  live : b.live = a.live + hs.length
  nodup : hs.Nodup
  made : ∀ h ∈ hs, h.kind = kind ∧ a.item? h.index.toNat = none ∧
    ∃ x, b.slots[h.index.toNat]? = some ⟨h.gen, some x⟩
  known : ∀ {j}, a.item? j = none → (b.item? j).isSome = true → ∃ h ∈ hs, h.index.toNat = j

theorem Gained.refl (ok : a.OK) : Gained kind a a [] := by
  refine ⟨ok, le_rfl, rfl, List.nodup_nil, ?_, fun hn hx => ?_⟩
  · exact fun h hm => nomatch hm
  · rw [hn] at hx
    cases hx

theorem Gained.inserted (hg : Gained kind a b hs) (hk : a.Keeps b) (hx : Inserted b c i g x) :
    Gained kind a c (hs ++ [⟨kind, i, g⟩]) := by
  have hempty := (hk.inserted hx).1
  refine ⟨hg.ok.inserted hx, ?_, ?_, ?_, fun h hm => ?_, fun {j} hn hj => ?_⟩
  · rw [List.length_append, List.length_singleton]
    exact hx.size_succ.trans (Nat.succ_le_succ hg.size_le)
  · rw [hx.live, hg.live, List.length_append, List.length_singleton]
    rfl
  · -- the slot of a handle that is on the list is not empty
    refine List.nodup_append.2 ⟨hg.nodup, List.nodup_singleton _, fun h hm k hk => ?_⟩
    rw [List.mem_singleton.1 hk]
    rintro rfl
    obtain ⟨-, -, y, hy⟩ := hg.made _ hm
    have := hx.empty
    unfold item? at this
    rw [hy] at this
    cases this
  · rcases List.mem_append.1 hm with hm | hm
    · obtain ⟨hkind, hn, y, hy⟩ := hg.made h hm
      exact ⟨hkind, hn, y, hx.keeps _ _ hy rfl⟩
    · rw [List.mem_singleton.1 hm]
      exact ⟨rfl, hempty, x, hx.filled⟩
  · rw [item?_inserted hx] at hj
    split at hj
    · exact ⟨_, List.mem_append_right _ (List.mem_singleton_self _), Eq.symm ‹_›⟩
    · obtain ⟨h, hm, hat⟩ := hg.known hn hj
      exact ⟨h, List.mem_append_left _ hm, hat⟩

theorem Gained.update (hg : Gained kind a b hs) (i : UInt32) (f : α → α) :
    Gained kind a (b.update i f) hs := by
  refine ⟨hg.ok.update i f, Array.size_modify.trans_le hg.size_le, hg.live, hg.nodup,
    fun h hm => ?_, fun {j} hn hj => hg.known hn ?_⟩
  · obtain ⟨hkind, hn, x, hx⟩ := hg.made h hm
    refine ⟨hkind, hn, ?_⟩
    simp only [Arena.update, Array.getElem?_modify, hx]
    split
    · exact ⟨f x, rfl⟩
    · exact ⟨x, rfl⟩
  · rw [item?_update] at hj
    split at hj
    · rwa [Option.isSome_map] at hj
    · exact hj

/-- **All that is new can be found**: no slot that was empty is filled under generation 0. -/
def Reached (a b : Arena α) : Prop :=
  ∀ (j : Nat) (slot : Slot α), b.slots[j]? = some slot → slot.item.isSome = true →
    a.item? j = none → slot.gen ≠ 0

/-- What cannot be found is not removed either. -/
theorem Worn.reached {β : Type} {kept : α → β} (hw : b.Worn kept c)
    (hgone : ∀ j, a.item? j = none → c.item? j = none) : Reached a b := by
  rintro j ⟨g, item⟩ hs hi hn rfl
  obtain ⟨x, rfl⟩ := Option.isSome_iff_exists.1 hi
  obtain ⟨y, hy⟩ := hw.filled_zero ⟨x, hs⟩
  have := hgone j hn
  rw [item?_eq_some.2 ⟨0, hy⟩] at this
  cases this

theorem Gained.gen_ne_zero (hg : Gained kind a b hs) (hr : Reached a b) (hm : h ∈ hs) :
    h.gen ≠ 0 := by
  obtain ⟨-, hn, x, hx⟩ := hg.made h hm
  exact hr _ _ hx rfl hn

end Arena

namespace Snapshot

open Store
open Arena (Gained Reached)

variable {r : Registry} {s t t' : Store} {m : HandleMap} {h : Handle}
  {pairs ns es : List (String × Handle)}

/-! ## What is found -/

/-- What was entered last under a text is found. -/
theorem lookupKey_enter_reverse (pairs : List (String × Handle)) :
    ∀ (m : HandleMap) (text : String),
      lookupKey text (enter pairs m) = lookupKey text (pairs.reverse ++ m) := by
  induction pairs with
  | nil => exact fun _ _ => rfl
  | cons p pairs ih =>
    intro m text
    obtain ⟨key, h⟩ := p
    show lookupKey text (enter pairs (insertKey key h m)) = _
    rw [ih, List.reverse_cons, List.append_assoc, lookupKey_append, lookupKey_append,
      lookupKey_insertKey, List.singleton_append, lookupKey_cons]

/-- What is in the map is what is found. -/
theorem mem_enter {p : String × Handle} :
    p ∈ enter pairs [] ↔ lookupKey p.1 pairs.reverse = some p.2 := by
  rw [mem_iff_lookupKey (ordered_enter pairs List.Pairwise.nil).nodup, lookupKey_enter_reverse,
    List.append_nil]

/-- **Which nodes are in the map**: all of them, just if no text of a node is entered again. -/
theorem entered_iff (hnodup : (ns.map (·.2)).Nodup) (hne : ∀ p ∈ ns, ∀ q ∈ es, p.2 ≠ q.2) :
    (∀ p ∈ ns, p.2 ∈ (enter (ns ++ es) []).map (·.2)) ↔
      (ns.map (·.1)).Nodup ∧ ∀ q ∈ es, q.1 ∉ ns.map (·.1) := by
  -- a node that is in the map is there under its own text
  have hown : ∀ p ∈ ns, (p.2 ∈ (enter (ns ++ es) []).map (·.2) ↔
      (lookupKey p.1 es.reverse).or (lookupKey p.1 ns.reverse) = some p.2) := by
    intro p hp
    rw [← lookupKey_append, ← List.reverse_append]
    constructor
    · intro hm
      obtain ⟨q, hq, heq⟩ := List.mem_map.1 hm
      have hfound := mem_enter.1 hq
      have hin : q ∈ ns ++ es := List.mem_reverse.1 (mem_of_lookupKey hfound)
      have hq : q ∈ ns := (List.mem_append.1 hin).resolve_right fun hq => hne p hp q hq heq.symm
      rwa [List.inj_on_of_nodup_map hnodup hq hp heq] at hfound
    · intro hfound
      exact List.mem_map.2 ⟨p, mem_enter.2 hfound, rfl⟩
  rw [forall₂_congr hown]
  constructor
  · intro hall
    -- two nodes of one text, or a node and an edge, would both be what is found under it
    refine ⟨(List.Nodup.of_map _ hnodup).map_on fun p hp q hq heq => ?_, fun q hq hm => ?_⟩
    · have hp' := hall p hp
      rw [heq, hall q hq] at hp'
      exact List.inj_on_of_nodup_map hnodup hp hq (Option.some.inj hp').symm
    · obtain ⟨p, hp, heq⟩ := List.mem_map.1 hm
      have hp' := hall p hp
      cases hl : lookupKey p.1 es.reverse with
      | none =>
        refine lookupKey_eq_none.1 hl ?_
        rw [heq]
        exact List.mem_map_of_mem (List.mem_reverse.2 hq)
      | some h =>
        rw [hl] at hp'
        exact hne p hp _ (List.mem_reverse.1 (mem_of_lookupKey hl)) (Option.some.inj hp').symm
  · rintro ⟨hnd, hapart⟩ p hp
    have hnone : lookupKey p.1 es.reverse = none := by
      refine lookupKey_eq_none.2 fun hm => ?_
      obtain ⟨q, hq, heq⟩ := List.mem_map.1 hm
      exact hapart q (List.mem_reverse.1 hq) (heq ▸ List.mem_map_of_mem hp)
    have hsome : lookupKey p.1 ns.reverse = some p.2 := by
      refine (mem_iff_lookupKey ?_).1 (List.mem_reverse.2 hp)
      rw [List.map_reverse]
      exact List.nodup_reverse.2 hnd
    rw [hnone, hsome]
    rfl

/-! ## What is made -/

/-- **What restoring has made of `s`** so far: the nodes `ns` and then the edges `es`, each with
the text that it was entered under. As long as each edge has a generation that names something,
it is found at its source. -/
structure Grown (s t : Store) (ns es : List (String × Handle)) : Prop extends Apart s t where
  new_nodes : Gained .node s.nodes t.nodes (ns.map (·.2))
  new_edges : Gained .edge s.edges t.edges (es.map (·.2))
  tied : (∀ p ∈ es, p.2.gen ≠ 0) → Beside s t

theorem Grown.refl (hn : s.nodes.OK) (he : s.edges.OK) : Grown s s [] [] :=
  ⟨(Beside.refl s).toApart, .refl hn, .refl he, fun _ => .refl s⟩

theorem Grown.size (hg : Grown s t ns es) :
    t.size = (s.size.1 + ns.length, s.size.2 + es.length) := by
  unfold Store.size
  rw [hg.new_nodes.live, hg.new_edges.live, List.length_map, List.length_map]

theorem Grown.nodes_size (hg : Grown s t ns es) :
    t.nodes.slots.size ≤ s.nodes.slots.size + ns.length := by
  simpa only [List.length_map] using hg.new_nodes.size_le

theorem Grown.edges_size (hg : Grown s t ns es) :
    t.edges.slots.size ≤ s.edges.slots.size + es.length := by
  simpa only [List.length_map] using hg.new_edges.size_le

/-- A node that has been made is live, if all that is new can be found. -/
theorem Grown.live (hg : Grown s t ns es) {p : String × Handle} (hp : p ∈ ns)
    (hr : Reached s.nodes t.nodes) : (t.node? p.2).isSome = true := by
  have hm : p.2 ∈ ns.map (·.2) := List.mem_map_of_mem hp
  obtain ⟨hk, -, x, hx⟩ := hg.new_nodes.made _ hm
  rw [node?_eq_some.2 ⟨hk, Arena.get?_eq_some.2 ⟨hx, hg.new_nodes.gen_ne_zero hr hm⟩⟩]
  rfl

/-- A node that has been made stands in a slot that was empty. -/
theorem Grown.empty (hg : Grown s t ns es) {p : String × Handle} (hp : p ∈ ns ++ es)
    (hk : p.2.kind = .node) : s.nodes.item? p.2.index.toNat = none := by
  rcases List.mem_append.1 hp with hp | hp
  · exact (hg.new_nodes.made _ (List.mem_map_of_mem hp)).2.1
  · have := (hg.new_edges.made _ (List.mem_map_of_mem hp)).1
    rw [hk] at this
    cases this

/-- **One more node.** -/
theorem Grown.createNode (hg : Grown s t ns []) (hroom : t.nodes.slots.size < UInt32.size)
    {a : Architype} {init : List (String × Value)} {x : Node}
    (hc : t.createNode a init = .ok (t', x)) (text : String) :
    Grown s t' (ns ++ [(text, x.id)]) [] := by
  obtain ⟨nodes, i, g, rfl, hid, halone, hins⟩ := createNode_inserted hg.new_nodes.ok hroom hc
  refine ⟨hg.toApart.insertNode hins halone, ?_, hg.new_edges, fun hall =>
    (hg.tied hall).insertNode hins halone⟩
  rw [List.map_append, List.map_singleton, hid]
  exact hg.new_nodes.inserted hg.nodes hins

/-- **One more edge**, between what has been made. -/
theorem Grown.createEdge (hg : Grown s t ns es) (hroom : t.edges.slots.size < UInt32.size)
    {a : Architype} {source target : Handle} {directed : Bool} {init : List (String × Value)}
    {e : Edge} (hc : t.createEdge a source target directed init = .ok (t', e))
    (hs : ∃ p ∈ ns ++ es, p.2 = source) (ht : ∃ p ∈ ns ++ es, p.2 = target) (text : String) :
    Grown s t' ns (es ++ [(text, e.id)]) := by
  have ok := hg.new_edges.ok
  obtain ⟨hsource, htarget, -, -, i, g, hid, hins, hstore⟩ := createEdge_inserted ok hroom hc
  have hempty : ∀ {v}, (∃ p ∈ ns ++ es, p.2 = v) → (t.node? v).isSome = true →
      s.nodes.item? v.index.toNat = none := by
    rintro v ⟨p, hp, rfl⟩ hv
    obtain ⟨x, hx⟩ := Option.isSome_iff_exists.1 hv
    exact hg.empty hp (node?_eq_some.1 hx).1
  have hs := hempty hs hsource
  have ht := hempty ht htarget
  refine ⟨hg.toApart.createEdge ok hroom hc hs ht, ?_, ?_, fun hall => ?_⟩
  · rw [hstore]
    simp only
    split
    · exact hg.new_nodes.update _ _
    · exact (hg.new_nodes.update _ _).update _ _
  · rw [List.map_append, List.map_singleton, hid]
    exact hg.new_edges.inserted hg.edges hins
  · have hold := hg.tied fun p hp => hall p (List.mem_append_left _ hp)
    exact hold.createEdge ok hroom hc
      (hall (text, e.id) (List.mem_append_right _ (List.mem_singleton_self _))) hs ht

/-- **Restoring nodes** makes nodes for some first part of the list, and enters them. -/
theorem restoreNodes_grown (cs : List NodeCopy) :
    ∀ {t : Store} {ns : List (String × Handle)}, Grown s t ns [] →
      s.nodes.slots.size + ns.length + cs.length ≤ UInt32.size →
        ∃ t' made stop, restoreNodes r cs t (enter ns []) = (t', enter (ns ++ made) [], stop) ∧
          Grown s t' (ns ++ made) [] ∧
          made.map (·.1) = (cs.take made.length).map NodeCopy.handle := by
  induction cs with
  | nil =>
    intro t ns hg _
    exact ⟨t, [], none, by rw [List.append_nil]; rfl, by rwa [List.append_nil], rfl⟩
  | cons c cs ih =>
    intro t ns hg hroom
    rw [List.length_cons] at hroom
    rcases restoreNodes_cons (r := r) c cs t (enter ns []) with
      ⟨stop, hstop⟩ | ⟨a, init, u, x, -, -, hc, hrest⟩
    · exact ⟨t, [], some stop, by rw [hstop, List.append_nil], by rwa [List.append_nil], rfl⟩
    · have hnext := hg.createNode (lt_of_le_of_lt hg.nodes_size (by omega)) hc c.handle
      obtain ⟨t', made, stop, hmore, hg', hmade⟩ := ih hnext (by
        rw [List.length_append, List.length_singleton]
        omega)
      rw [List.append_assoc, List.singleton_append] at hmore hg'
      refine ⟨t', (c.handle, x.id) :: made, stop, ?_, hg', ?_⟩
      · rw [hrest, ← hmore, enter_append]
        rfl
      · rw [List.map_cons, hmade, List.length_cons, List.take_succ_cons, List.map_cons]

/-- **Restoring edges** makes edges for some first part of the list, and enters them. -/
theorem restoreEdges_grown (cs : List EdgeCopy) :
    ∀ {t : Store} {es : List (String × Handle)}, Grown s t ns es →
      s.edges.slots.size + es.length + cs.length ≤ UInt32.size →
        ∃ t' made stop,
          restoreEdges r cs t (enter (ns ++ es) []) = (t', enter (ns ++ (es ++ made)) [], stop) ∧
          Grown s t' ns (es ++ made) ∧
          made.map (·.1) = (cs.take made.length).map EdgeCopy.handle := by
  induction cs with
  | nil =>
    intro t es hg _
    exact ⟨t, [], none, by rw [List.append_nil]; rfl, by rwa [List.append_nil], rfl⟩
  | cons c cs ih =>
    intro t es hg hroom
    rw [List.length_cons] at hroom
    rcases restoreEdges_cons (r := r) c cs t (enter (ns ++ es) []) with
      ⟨stop, hstop⟩ | ⟨a, source, target, init, u, x, -, hs, ht, hc, hrest⟩
    · exact ⟨t, [], some stop, by rw [hstop, List.append_nil], by rwa [List.append_nil], rfl⟩
    · -- what stands in the map is one of the nodes or edges made so far
      have hentered : ∀ {text h}, lookupKey text (enter (ns ++ es) []) = some h →
          ∃ p ∈ ns ++ es, p.2 = h := by
        intro text h hl
        have hm := mem_enter.1 (mem_of_lookupKey hl)
        exact ⟨_, List.mem_reverse.1 (mem_of_lookupKey hm), rfl⟩
      have hnext := hg.createEdge (lt_of_le_of_lt hg.edges_size (by omega)) hc (hentered hs)
        (hentered ht) c.handle
      obtain ⟨t', made, stop, hmore, hg', hmade⟩ := ih hnext (by
        rw [List.length_append, List.length_singleton]
        omega)
      rw [List.append_assoc, List.singleton_append] at hmore hg'
      refine ⟨t', (c.handle, x.id) :: made, stop, ?_, hg', ?_⟩
      · rw [hrest, ← hmore, ← List.append_assoc, enter_append (ns ++ es)]
        rfl
      · rw [List.map_cons, hmade, List.length_cons, List.take_succ_cons, List.map_cons]

/-! ## What is undone -/

/-- Deletes a node that has been created. -/
def undo (t : Store) (h : Handle) : Store :=
  if h.isNode then (t.deleteNode h).toOption.getD t else t

/-- **What deleting nodes that are new leaves** of `t`, where `hs` are the handles that have been
tried. -/
structure Undone (s t : Store) (hs : List Handle) (t' : Store) : Prop extends Apart s t' where
  beside : Beside s t → Beside s t'
  worn : t.nodes.Worn Node.arch t'.nodes ∧ t.edges.Worn Edge.arch t'.edges
  live : ∀ v, (t'.node? v).isSome = true ↔ (t.node? v).isSome = true ∧ v ∉ hs
  slots : ∀ j, (t'.nodes.item? j).isSome = true →
    ∀ h ∈ hs, (t.node? h).isSome = true → j ≠ h.index.toNat

theorem Undone.refl (ha : Apart s t) : Undone s t [] t :=
  ⟨ha, fun hb => hb, ⟨.refl, .refl⟩, fun _ => ⟨fun hv => ⟨hv, List.not_mem_nil⟩, And.left⟩,
    fun _ _ _ hm => nomatch hm⟩

theorem Undone.trans {u : Store} {hs ks : List Handle} (h₁ : Undone s t hs t')
    (h₂ : Undone s t' ks u) : Undone s t (hs ++ ks) u := by
  refine ⟨h₂.toApart, h₂.beside ∘ h₁.beside, ⟨h₁.worn.1.trans h₂.worn.1,
    h₁.worn.2.trans h₂.worn.2⟩, fun v => ?_, fun j hj h hm hh => ?_⟩
  · rw [h₂.live, h₁.live, List.mem_append, not_or, and_assoc]
  · by_cases hin : h ∈ hs
    · exact h₁.slots j (h₂.worn.1.isSome_item? hj) h hin hh
    · exact h₂.slots j hj h ((List.mem_append.1 hm).resolve_left hin) ((h₁.live h).2 ⟨hh, hin⟩)

/-- **One handle**: the node is deleted, if it is live. It is new, so that nothing can have pinned
it or an edge at it. -/
theorem undo_spec (hpins : s.Anchored) (ha : Apart s t)
    (hnew : h.kind = .node → s.nodes.item? h.index.toNat = none) :
    Undone s t [h] (undo t h) := by
  unfold undo
  cases hx : t.node? h with
  | none =>
    -- a handle that is not live is refused
    have hsame : (if h.isNode then (t.deleteNode h).toOption.getD t else t) = t := by
      split
      · unfold Store.deleteNode
        rw [hx]
        rfl
      · rfl
    rw [hsame]
    refine ⟨ha, fun hb => hb, ⟨.refl, .refl⟩,
      fun v => (and_iff_left_of_imp fun hv => ?_).symm, fun j _ k hk hlive => ?_⟩
    · rw [List.mem_singleton]
      rintro rfl
      rw [hx] at hv
      cases hv
    · rw [List.mem_singleton.1 hk, hx] at hlive
      cases hlive
  | some x =>
    have hk := (node?_eq_some.1 hx).1
    obtain ⟨t', hd⟩ := deleteNode_succeeds hx
      (ha.pins ▸ hpins.not_mem_pins hnew fun he => nomatch hk.symm.trans he) fun k hm => by
        obtain ⟨hke, hempty⟩ := ha.listed (item?_of_node? hx) (hnew hk) k hm
        exact ha.pins ▸ hpins.not_mem_pins (fun hn => nomatch hke.symm.trans hn) fun _ => hempty
    have hdone : (if h.isNode then (t.deleteNode h).toOption.getD t else t) = t' := by
      rw [hd, if_pos ((proper_of_node? hx).1.isNode hk)]
      rfl
    rw [hdone]
    obtain ⟨hlive, hslots⟩ := deleteNode_left hd
    refine ⟨ha.deleteNode (hnew hk) hd, fun hb => hb.deleteNode (hnew hk) hd, deleteNode_worn hd,
      fun v => ?_, fun j hj k hm _ => ?_⟩
    · rw [hlive, List.mem_singleton]
    · rw [List.mem_singleton.1 hm]
      exact (hslots j hj).2

/-- **All handles of a map**, in any order. -/
theorem rollback_undone (hpins : s.Anchored) (m : HandleMap) :
    ∀ {t : Store}, Apart s t →
      (∀ p ∈ m, p.2.kind = .node → s.nodes.item? p.2.index.toNat = none) →
        Undone s t (m.map (·.2)) (rollback t m) := by
  induction m with
  | nil => exact fun ha _ => .refl ha
  | cons p m ih =>
    intro t ha hnew
    have hone := undo_spec hpins ha (hnew p List.mem_cons_self)
    exact hone.trans (ih hone.toApart fun q hq => hnew q (List.mem_cons_of_mem _ hq))

/-- What has been entered has been made. -/
theorem made_of_enter {p : String × Handle} (hp : p ∈ enter pairs []) : p ∈ pairs :=
  List.mem_reverse.1 (mem_of_lookupKey (mem_enter.1 hp))

/-- **The nodes and edges are those that were there** after undoing, just if all that was made
could be found, and all nodes were in the map. -/
theorem Grown.undone_iff (hg : Grown s t ns es)
    (hu : Undone s t ((enter (ns ++ es) []).map (·.2)) t') :
    (t'.allNodes = s.allNodes ∧ t'.allEdges = s.allEdges) ↔
      Reached s.nodes t.nodes ∧ Reached s.edges t.edges ∧
        ∀ p ∈ ns, p.2 ∈ (enter (ns ++ es) []).map (·.2) := by
  constructor
  · rintro ⟨hnodes, hedges⟩
    have hgone_nodes := hu.nodes.items_eq_iff.1 hnodes
    have hgone_edges := hu.edges.items_eq_iff.1 hedges
    have hn0 := hu.worn.1.reached hgone_nodes
    refine ⟨hn0, hu.worn.2.reached hgone_edges, fun p hp => ?_⟩
    -- a node that is not in the map would still be live
    by_contra hm
    obtain ⟨x, hx⟩ := Option.isSome_iff_exists.1 ((hu.live p.2).2 ⟨hg.live hp hn0, hm⟩)
    have := hgone_nodes _ (hg.new_nodes.made _ (List.mem_map_of_mem hp)).2.1
    rw [item?_of_node? hx] at this
    cases this
  · rintro ⟨hn0, he0, hall⟩
    have htied := hg.tied fun p hp => hg.new_edges.gen_ne_zero he0 (List.mem_map_of_mem hp)
    refine (hu.beside htied).unchanged_iff.2 fun j hj => ?_
    cases hx : t'.nodes.item? j with
    | none => rfl
    | some x =>
      -- what is in a slot that was empty is a node that was made, and these are deleted
      have hj' : (t'.nodes.item? j).isSome = true := by rw [hx]; rfl
      obtain ⟨h, hm, hat⟩ := hg.new_nodes.known hj (hu.worn.1.isSome_item? hj')
      obtain ⟨p, hp, rfl⟩ := List.mem_map.1 hm
      exact absurd hat.symm (hu.slots j hj' p.2 (hall p hp) (hg.live hp hn0))

/-! ## A failed restoring -/

/-- What restoring creates before anything is removed again. -/
def attempt (snap : Snapshot) (r : Registry) (s : Store) : Store × HandleMap × Option Stop :=
  match restoreNodes r snap.nodes s [] with
  | (t, m, none) => restoreEdges r snap.edges t m
  | stopped => stopped

/-- A restoring that fails undoes its attempt. -/
theorem attempt_of_failed {snap : Snapshot} {s' : Store} {f : Fault} {record : LogRecord}
    (h : restore snap r s = (s', .failed f record)) :
    ∃ t m, attempt snap r s = (t, m, some (.fault f)) ∧ s' = rollback t m := by
  unfold restore at h
  unfold attempt
  rcases hn : restoreNodes r snap.nodes s [] with ⟨t, m, _ | stop⟩
  · rw [hn] at h
    simp only at h ⊢
    rcases he : restoreEdges r snap.edges t m with ⟨t', m', _ | stop⟩
    · rw [he] at h
      cases h
    · rw [he] at h
      cases stop with
      | fault f =>
        cases h
        exact ⟨t', m', rfl, rfl⟩
      | brokenOff message => cases h
  · rw [hn] at h
    cases stop with
    | fault f =>
      cases h
      exact ⟨t, m, rfl, rfl⟩
    | brokenOff message => cases h

theorem attempt_grown {snap : Snapshot} {stop : Option Stop} (hg : Grown s s [] [])
    (hn : s.nodes.slots.size + snap.nodes.length ≤ UInt32.size)
    (he : s.edges.slots.size + snap.edges.length ≤ UInt32.size)
    (h : attempt snap r s = (t, m, stop)) :
    ∃ ns es, Grown s t ns es ∧ m = enter (ns ++ es) [] ∧
      ns.map (·.1) = (snap.nodes.take ns.length).map NodeCopy.handle ∧
      es.map (·.1) = (snap.edges.take es.length).map EdgeCopy.handle := by
  obtain ⟨t₁, ns, stop₁, hnodes, hg₁, hns⟩ := restoreNodes_grown (r := r) snap.nodes hg hn
  unfold attempt at h
  change restoreNodes r snap.nodes s [] = _ at hnodes
  rw [hnodes] at h
  cases stop₁ with
  | some stop₁ =>
    cases h
    exact ⟨ns, [], hg₁, by rw [List.append_nil, List.nil_append], hns, rfl⟩
  | none =>
    obtain ⟨t₂, es, stop₂, hedges, hg₂, hes⟩ :=
      restoreEdges_grown (r := r) snap.edges hg₁ (by simpa using he)
    rw [List.append_nil] at hedges
    simp only [hedges] at h
    cases h
    exact ⟨ns, es, hg₂, rfl, hns, hes⟩

/-- **What a failed restoring leaves.** Let a store be reached by calls, of any number, such that
both arenas have room for the snapshot. When restoring fails, all nodes and edges that were there
are there as they were, and the pins are. Nothing else is there just if all that was made could
be found, and no text of a node that was made is that of another instance made after it. -/
theorem unchanged_of_failure (ops : List Operation) (snap : Snapshot) (r : Registry)
    (hn : (empty.run ops).nodes.slots.size + snap.nodes.length < 2 ^ 32)
    (he : (empty.run ops).edges.slots.size + snap.edges.length < 2 ^ 32)
    (f : Fault) (record : LogRecord)
    (h : restore snap r (empty.run ops) = (s', .failed f record)) :
    (∀ v x, (empty.run ops).node? v = some x → s'.node? v = some x) ∧
    (∀ k e, (empty.run ops).edge? k = some e → s'.edge? k = some e) ∧
    s'.pins = (empty.run ops).pins ∧
    ∃ t m k l, attempt snap r (empty.run ops) = (t, m, some (.fault f)) ∧
      t.size = ((empty.run ops).size.1 + k, (empty.run ops).size.2 + l) ∧
      (s'.allNodes = (empty.run ops).allNodes ∧ s'.allEdges = (empty.run ops).allEdges ↔
        Reached (empty.run ops).nodes t.nodes ∧ Reached (empty.run ops).edges t.edges ∧
          ((snap.nodes.take k).map NodeCopy.handle).Nodup ∧
          ∀ c ∈ snap.edges.take l, c.handle ∉ (snap.nodes.take k).map NodeCopy.handle) := by
  have hsize : UInt32.size = 2 ^ 32 := rfl
  have hbooks := empty_books.run ops (by omega) (by omega)
  have hpins : (empty.run ops).Anchored := empty_ok.anchored.run ops
  generalize empty.run ops = s at *
  obtain ⟨t, m, hattempt, rfl⟩ := attempt_of_failed h
  obtain ⟨ns, es, hg, rfl, hns, hes⟩ := attempt_grown
    (.refl hbooks.nodes_ok hbooks.edges_ok) (by omega) (by omega) hattempt
  have hu := rollback_undone hpins _ hg.toApart fun p hp => hg.empty (made_of_enter hp)
  refine ⟨fun v x => hu.node?, fun k e => hu.edge?, hu.pins, t, _, ns.length, es.length, hattempt,
    hg.size, ?_⟩
  have hne : ∀ p ∈ ns, ∀ q ∈ es, p.2 ≠ q.2 := by
    intro p hp q hq heq
    have hk := (hg.new_nodes.made _ (List.mem_map_of_mem hp)).1
    rw [heq, (hg.new_edges.made _ (List.mem_map_of_mem hq)).1] at hk
    cases hk
  rw [hg.undone_iff hu, entered_iff hg.new_nodes.nodup hne, hns]
  refine and_congr_right fun _ => and_congr_right fun _ => and_congr_right fun _ => ?_
  rw [← List.forall_mem_map (f := fun q : String × Handle => q.1) (P := (· ∉ _)), hes,
    List.forall_mem_map]

section Sample

def hut : Architype := .new "m" ⟨.node, "Hut"⟩

def path : Architype := .new "m" ⟨.edge, "Path"⟩

/-- The architypes of huts and paths. -/
def trails : Registry := ⟨[hut, path], [], true, 0⟩

/-- A path under the text of the hut that it leads from, and one more from there. -/
def confused : Snapshot :=
  { id := "s1", name := "first", created := ⟨0, 0⟩
    nodes := [⟨"n0.1", "Hut", "{}"⟩, ⟨"n1.1", "Hut", "{}"⟩]
    edges := [⟨"n0.1", "Path", "n0.1", "n1.1", true, "{}"⟩,
      ⟨"e1.1", "Path", "n0.1", "n1.1", true, "{}"⟩] }

/-- Two huts of one text, and then one whose architype nobody knows. -/
def doubled : Snapshot :=
  { id := "s1", name := "first", created := ⟨0, 0⟩
    nodes := [⟨"n0.1", "Hut", "{}"⟩, ⟨"n0.1", "Hut", "{}"⟩,
      ⟨"n1.1", "Cave", "{}"⟩]
    edges := [] }

theorem restore_confused : ∃ f record,
    restore confused trails (empty.run [.edit (.createNode hut [])]) =
      ((restore confused trails (empty.run [.edit (.createNode hut [])])).1, .failed f record) :=
  ⟨_, _, rfl⟩

theorem unchanged_confused : ∃ s f s' record t m k l,
    s = empty.run [.edit (.createNode hut [])] ∧
    restore confused trails s = (s', .failed f record) ∧
    attempt confused trails s = (t, m, some (.fault f)) ∧
    t.size = (s.size.1 + k, s.size.2 + l) ∧
    (s'.allNodes = s.allNodes ∧ s'.allEdges = s.allEdges ↔
      Reached s.nodes t.nodes ∧ Reached s.edges t.edges ∧
        ((confused.nodes.take k).map NodeCopy.handle).Nodup ∧
        ∀ c ∈ confused.edges.take l, c.handle ∉ (confused.nodes.take k).map NodeCopy.handle) := by
  obtain ⟨f, record, h⟩ := restore_confused
  obtain ⟨-, -, -, t, m, k, l, hattempt, hsize, hiff⟩ := unchanged_of_failure
    [.edit (.createNode hut [])] confused trails (by decide) (by decide) f record h
  exact ⟨_, f, _, record, t, m, k, l, rfl, h, hattempt, hsize, hiff⟩

/-- The first of two huts of one text is still there when restoring has failed. -/
theorem doubled_left : ∃ s' f record, restore doubled trails empty = (s', .failed f record) ∧
    empty.allNodes = [] ∧ s'.allNodes = [⟨.node 0 1, hut, ⟨[]⟩, []⟩] :=
  ⟨_, _, _, rfl, rfl, rfl⟩

end Sample

end Snapshot

end GraphWalk
