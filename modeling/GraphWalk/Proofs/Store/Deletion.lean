import GraphWalk.Proofs.Store.Beside
import GraphWalk.Proofs.Store.Records

/-!
# What a deletion removes

`Without s t gone cut` says that `t` is `s` without the nodes `gone` and the edges `cut`: what is
left is as it was and stands where it stood, on the lists of the nodes as in the lists of all
nodes and edges. What is known of lookups is enough for that (`Slots.without`), since lookups
settle what all slots hold (`Arena.items_of_lookups`).

`Deletes` says when a deletion succeeds, and how it fails otherwise.

Main result: `deletion_of_run`. **Deleting a node** removes it and the edges at it, and **deleting
an edge** the edge alone, just if the handle is live and nothing that is to be removed is pinned.
-/

namespace GraphWalk

namespace Arena

variable {α : Type} {a b : Arena α} {f : α → Option α} {n m j : Nat} {i : UInt32} {x : α}

/-- What is in a slot is found there, since no generation is zero. -/
theorem Young.item?_iff (hy : a.Young n) :
    a.item? i.toNat = some x ↔ ∃ g, a.get? i g = some x := by
  rw [item?_eq_some]
  refine exists_congr fun g => ?_
  rw [get?_eq_some, iff_self_and]
  rintro hs rfl
  exact Nat.lt_irrefl 0 (hy.gen_pos _ _ hs)

/-- **Lookups settle** what is in each slot. -/
theorem item?_of_lookups (ha : a.Young n) (hb : b.Young m) (hsize : a.slots.size ≤ UInt32.size)
    (hsize' : b.slots.size ≤ UInt32.size) (h : ∀ i g, b.get? i g = (a.get? i g).bind f) (j : Nat) :
    b.item? j = (a.item? j).bind f := by
  rcases Nat.lt_or_ge j UInt32.size with hj | hj
  · obtain ⟨i, rfl⟩ : ∃ i : UInt32, i.toNat = j := ⟨j.toUInt32, toNat_toUInt32 hj⟩
    ext y
    rw [hb.item?_iff, Option.bind_eq_some_iff]
    simp only [h, Option.bind_eq_some_iff, ha.item?_iff]
    exact ⟨fun ⟨g, x, hx, hy⟩ => ⟨x, ⟨g, hx⟩, hy⟩, fun ⟨x, ⟨g, hx⟩, hy⟩ => ⟨g, x, hx, hy⟩⟩
  · unfold item?
    rw [Array.getElem?_eq_none (hsize.trans hj), Array.getElem?_eq_none (hsize'.trans hj)]
    rfl

/-- **Lookups settle** the list of all items. -/
theorem items_of_lookups (ha : a.Young n) (hb : b.Young m) (hsize : a.slots.size ≤ UInt32.size)
    (hsize' : b.slots.size ≤ UInt32.size) (h : ∀ i g, b.get? i g = (a.get? i g).bind f) :
    b.items = a.items.filterMap f := by
  have hslot := item?_of_lookups ha hb hsize hsize' h
  have hlists : (b.slots.toList.map Slot.item).filterMap id =
      (a.slots.toList.map fun slot => slot.item.bind f).filterMap id := by
    refine filterMap_eq_of_bind _ _ fun j => ?_
    have hj := hslot j
    unfold item? at hj
    rw [List.getElem?_map, List.getElem?_map, Array.getElem?_toList, Array.getElem?_toList]
    cases hb : b.slots[j]? <;> cases ha : a.slots[j]? <;> simp_all
  rw [List.filterMap_map, List.filterMap_map] at hlists
  unfold items
  rw [List.filterMap_filterMap]
  exact hlists

end Arena

/-! ## A store without some nodes and edges -/

/-- Selecting and changing items at once is selecting them and then changing them. -/
theorem filterMap_cond {α β : Type} (p : α → Bool) (g : α → β) (xs : List α) :
    xs.filterMap (fun x => if p x then none else some (g x)) = (xs.filter fun x => !p x).map g := by
  induction xs with
  | nil => rfl
  | cons x xs ih => by_cases hp : p x <;> simp [hp, ih]

namespace Store

variable {s t : Store} {h k v : Handle} {x : Node} {e : Edge} {created : List Handle} {n m : Nat}
  {gone : Handle → Bool} {cut : Edge → Bool}

/-- A node that lists no edge of `cut` any more. -/
def spared (s : Store) (cut : Edge → Bool) (x : Node) : Node :=
  { x with edges := x.edges.filter fun k => !(s.edge? k).any cut }

/-- **`t` is `s` without the nodes `gone` and the edges `cut`**, which are on no list any more. -/
structure Without (s t : Store) (gone : Handle → Bool) (cut : Edge → Bool) : Prop where
  pins : t.pins = s.pins
  node? : ∀ v, t.node? v = if gone v then none else (s.node? v).map (s.spared cut)
  edge? : ∀ k, t.edge? k = (s.edge? k).filter fun e => !cut e
  allNodes : t.allNodes = (s.allNodes.filter fun x => !gone x.id).map (s.spared cut)
  allEdges : t.allEdges = s.allEdges.filter fun e => !cut e

/-- **Lookups settle** what a store is without something. -/
theorem Slots.without (ok : s.Slots n) (ok' : t.Slots m) (hpins : t.pins = s.pins)
    (hnode : ∀ v, t.node? v = if gone v then none else (s.node? v).map (s.spared cut))
    (hedge : ∀ k, t.edge? k = (s.edge? k).filter fun e => !cut e) : Without s t gone cut := by
  refine ⟨hpins, hnode, hedge, ?_, ?_⟩
  · unfold allNodes
    rw [← filterMap_cond]
    refine Arena.items_of_lookups ok.nodes_young ok'.nodes_young ok.nodes.size_le
      ok'.nodes.size_le fun i g => (hnode (.node i g)).trans ?_
    show (if gone _ then none else (s.nodes.get? i g).map _) = _
    cases hx : s.nodes.get? i g with
    | none => simp
    | some x => rw [Option.bind_some, ← ok.node_named.get? hx, Option.map_some]
  · unfold allEdges
    rw [← List.filterMap_eq_filter]
    refine Arena.items_of_lookups ok.edges_young ok'.edges_young ok.edges.size_le
      ok'.edges.size_le fun i g => (hedge (.edge i g)).trans ?_
    exact (Option.bind_guard _ _).symm

/-- What is on a list is live. -/
theorem Joined.listed (hj : s.Joined created) (hx : s.node? v = some x) (hk : k ∈ x.edges) :
    ∃ e, s.edge? k = some e := by
  obtain ⟨e, he, -⟩ := touches_iff.1 ((hj.mem_edges hx).1 hk)
  exact ⟨e, he⟩

/-- Where just the live edges of `cut` are removed, lookups and lists are without these. -/
theorem EdgesRemoved.lookups {ks : List Handle} (hr : EdgesRemoved s t ks) (hj : s.Joined created)
    (hks : ∀ k e, s.edge? k = some e → (k ∈ ks ↔ cut e = true)) :
    (∀ k, t.edge? k = (s.edge? k).filter fun e => !cut e) ∧
      ∀ v, t.node? v = (s.node? v).map (s.spared cut) := by
  refine ⟨fun k => ?_, fun v => ?_⟩
  · rw [hr.edge?]
    cases he : s.edge? k with
    | none => simp
    | some e =>
      by_cases hc : cut e = true
      · rw [if_pos ((hks k e he).2 hc), Option.filter_some, hc]
        rfl
      · rw [if_neg fun hm => hc ((hks k e he).1 hm), Option.filter_some, Bool.eq_false_iff.2 hc]
        rfl
  · rw [hr.node?]
    cases hx : s.node? v with
    | none => rfl
    | some x =>
      rw [Option.map_some, Option.map_some]
      unfold spared
      congr 2
      -- all that is listed is live, so `cut` says of it whether it is removed
      refine List.filter_congr fun k hk => ?_
      obtain ⟨e, he⟩ := hj.listed hx hk
      have hke := hks k e he
      rw [he, Option.any_some]
      by_cases hc : cut e = true <;> simp [hke, hc]

/-! ## What a deletion comes to -/

/-- A handle of something that is to be removed. -/
def Removed (s : Store) (gone : Handle → Bool) (cut : Edge → Bool) (k : Handle) : Prop :=
  gone k = true ∨ (s.edge? k).any cut = true

/-- **A deletion** of `h` comes to this: where it is live and nothing to be removed is pinned, the
nodes `gone` and the edges `cut` are removed; otherwise it says what is the matter. -/
structure Deletes (s : Store) (h : Handle) (live : Prop) (edge : Bool) (gone : Handle → Bool)
    (cut : Edge → Bool) (r : Except StoreError Store) : Prop where
  removes : ∀ t, r = .ok t → Without s t gone cut
  succeeds : (∃ t, r = .ok t) ↔ live ∧ ∀ k ∈ s.pins, ¬s.Removed gone cut k
  dangling : r = .error (.dangling edge h) ↔ ¬live
  pinned : (∃ k, r = .error (.pinned h k)) ↔ live ∧ ∃ k ∈ s.pins, s.Removed gone cut k

/-- A deletion ends in one of three ways. -/
theorem Deletes.of_cases {live : Prop} {edge : Bool} {r : Except StoreError Store}
    (hremoves : ∀ t, r = .ok t → Without s t gone cut)
    (hdead : ¬live → r = .error (.dangling edge h))
    (hheld : live → (∃ k ∈ s.pins, s.Removed gone cut k) → ∃ k, r = .error (.pinned h k))
    (hfree : live → (∀ k ∈ s.pins, ¬s.Removed gone cut k) → ∃ t, r = .ok t) :
    Deletes s h live edge gone cut r := by
  by_cases hlive : live
  · by_cases hpin : ∃ k ∈ s.pins, s.Removed gone cut k
    · obtain ⟨k', rfl⟩ := hheld hlive hpin
      obtain ⟨k, hk, hr⟩ := hpin
      exact ⟨hremoves, iff_of_false nofun fun ⟨_, hno⟩ => hno k hk hr,
        iff_of_false nofun (not_not.2 hlive), iff_of_true ⟨k', rfl⟩ ⟨hlive, k, hk, hr⟩⟩
    · have hno : ∀ k ∈ s.pins, ¬s.Removed gone cut k := fun k hk hr => hpin ⟨k, hk, hr⟩
      obtain ⟨t, rfl⟩ := hfree hlive hno
      exact ⟨hremoves, iff_of_true ⟨t, rfl⟩ ⟨hlive, hno⟩,
        iff_of_false nofun (not_not.2 hlive), iff_of_false nofun fun ⟨_, hr⟩ => hpin hr⟩
  · obtain rfl := hdead hlive
    exact ⟨hremoves, iff_of_false nofun fun ⟨hl, _⟩ => hlive hl, iff_of_true rfl hlive,
      iff_of_false nofun fun ⟨hl, _⟩ => hlive hl⟩

theorem isPinned_iff : s.isPinned h = true ↔ h ∈ s.pins := by
  rw [← not_iff_not, Bool.not_eq_true, isPinned_eq_false]

/-- The deletion of a live node is refused while something to be removed is pinned. -/
theorem deleteNode_pinned (hx : s.node? h = some x) (hk : k ∈ s.pins)
    (hr : k = h ∨ k ∈ x.edges) : ∃ i, s.deleteNode h = .error (.pinned h i) := by
  unfold deleteNode
  rw [hx]
  simp only
  by_cases hp : s.isPinned h = true
  · exact ⟨none, by rw [if_pos hp]⟩
  · rw [if_neg hp]
    have hmem : k ∈ x.edges := hr.resolve_left fun heq => hp (isPinned_iff.2 (heq ▸ hk))
    obtain ⟨i, hi⟩ := Option.isSome_iff_exists.1
      (List.find?_isSome.2 ⟨k, hmem, isPinned_iff.2 hk⟩)
    exact ⟨some i, by rw [hi]⟩

theorem deleteNode_free (hx : s.node? h = some x) (hp : h ∉ s.pins)
    (hps : ∀ k ∈ x.edges, k ∉ s.pins) : ∃ t, s.deleteNode h = .ok t := by
  unfold deleteNode
  rw [hx]
  simp only
  rw [if_neg fun hm => hp (isPinned_iff.1 hm),
    List.find?_eq_none.2 fun k hk hm => hps k hk (isPinned_iff.1 hm)]
  exact ⟨_, rfl⟩

/-- **Deleting a node** removes it and the edges at it. -/
theorem OK.deletesNode (ok : s.OK n created) (hn : n < UInt32.size - 1) (h : Handle) :
    Deletes s h (∃ x ∈ s.allNodes, x.id = h) false (· == h)
      (fun e => e.source == h || e.target == h) (s.deleteNode h) := by
  have hcut : ∀ {x}, s.node? h = some x → ∀ k e, s.edge? k = some e →
      (k ∈ x.edges ↔ (e.source == h || e.target == h) = true) := fun hx k e he => by
    rw [ok.joined.mem_edges hx]
    unfold touches
    rw [he]
    rfl
  have hremoved : ∀ {x k}, s.node? h = some x →
      (s.Removed (· == h) (fun e => e.source == h || e.target == h) k ↔ k = h ∨ k ∈ x.edges) :=
    fun hx => or_congr beq_iff_eq (ok.joined.mem_edges hx).symm
  simp only [← ok.slots.node?_iff]
  refine .of_cases (fun t ht => ?_) (fun hdead => ?_) (fun ⟨x, hx⟩ ⟨k, hk, hr⟩ => ?_)
    (fun ⟨x, hx⟩ hfree => ?_)
  · obtain ⟨ok', -, x, t', hx, -, -, hr, hr'⟩ := deleteNode_spec hn ok.slots ok.joined ht
    obtain ⟨hedge, hnode⟩ := hr.lookups ok.joined (hcut hx)
    refine ok.slots.without ok' (hr'.pins.trans hr.pins) (fun v => ?_) fun k => ?_
    · rw [hr'.node?, hnode]
      simp
    · rw [edge?_congr hr'.edges, hedge]
  · unfold Store.deleteNode
    rw [Option.eq_none_iff_forall_ne_some.2 fun x hx => hdead ⟨x, hx⟩]
  · exact deleteNode_pinned hx hk ((hremoved hx).1 hr)
  · exact deleteNode_free hx (fun hp => hfree h hp ((hremoved hx).2 (Or.inl rfl)))
      fun k hk hp => hfree k hp ((hremoved hx).2 (Or.inr hk))

/-- The deletion of a live edge is refused just while it is pinned. -/
theorem deleteEdge_live (he : s.edge? h = some e) : s.deleteEdge h =
    if s.isPinned h then .error (.pinned h none) else .ok (s.removeEdge h) := by
  unfold deleteEdge
  rw [he]
  rfl

/-- **Deleting an edge** removes it alone. -/
theorem OK.deletesEdge (ok : s.OK n created) (hn : n < UInt32.size - 1) (h : Handle) :
    Deletes s h (∃ e ∈ s.allEdges, e.id = h) true (fun _ => false) (fun e => e.id == h)
      (s.deleteEdge h) := by
  have hcut : ∀ k e, s.edge? k = some e → (k ∈ [h] ↔ (e.id == h) = true) := fun k e he => by
    rw [ok.slots.edge_id he, List.mem_singleton, beq_iff_eq]
  have hremoved : ∀ {k}, (∃ e, s.edge? h = some e) →
      (s.Removed (fun _ => false) (fun e => e.id == h) k ↔ k = h) := by
    rintro k ⟨e, he⟩
    unfold Removed
    rw [or_iff_right Bool.false_ne_true, Option.any_eq_true]
    constructor
    · rintro ⟨e', he', hid⟩
      exact (ok.slots.edge_id he').symm.trans (beq_iff_eq.1 hid)
    · rintro rfl
      exact ⟨e, he, beq_iff_eq.2 (ok.slots.edge_id he)⟩
  simp only [← ok.slots.edge?_iff]
  refine .of_cases (fun t ht => ?_) (fun hdead => ?_) (fun hlive ⟨k, hk, hr⟩ => ?_)
    (fun hlive hfree => ?_)
  · obtain ⟨-, -, rfl⟩ := deleteEdge_eq ht
    obtain ⟨ok', -, hr⟩ := removeEdge_joined hn ok.slots ok.joined h
    obtain ⟨hedge, hnode⟩ := hr.lookups ok.joined hcut
    exact ok.slots.without ok' hr.pins (fun v => by rw [hnode]; rfl) hedge
  · unfold Store.deleteEdge
    rw [Option.eq_none_iff_forall_ne_some.2 fun e he => hdead ⟨e, he⟩]
    rfl
  · obtain rfl := (hremoved hlive).1 hr
    obtain ⟨e, he⟩ := hlive
    exact ⟨none, by rw [deleteEdge_live he, if_pos (isPinned_iff.2 hk)]⟩
  · have hp : h ∉ s.pins := fun hp => hfree h hp ((hremoved hlive).2 rfl)
    obtain ⟨e, he⟩ := hlive
    exact ⟨s.removeEdge h, by rw [deleteEdge_live he, if_neg fun hm => hp (isPinned_iff.1 hm)]⟩

/-- What is refused changes nothing. -/
theorem orKeep_error {r : Except StoreError Store} {err : StoreError} (hr : r = .error err) :
    s.orKeep r = s := by
  rw [hr]
  rfl

/-- **A deletion removes just what it should**, in every store that is reached by fewer than
`2^32 - 1` calls, whatever handle is given. Deleting a node removes the node and the edges that
have it as an end; deleting an edge removes the edge. It succeeds just if the handle is live and
nothing that is to be removed is pinned, and otherwise says which of the two is the matter and
changes nothing. -/
theorem deletion_of_run (ops : List Operation) (hcalls : calls ops < 2 ^ 32 - 1) (h : Handle) :
    Deletes (empty.run ops) h (∃ x ∈ (empty.run ops).allNodes, x.id = h) false (· == h)
      (fun e => e.source == h || e.target == h) ((empty.run ops).deleteNode h) ∧
    Deletes (empty.run ops) h (∃ e ∈ (empty.run ops).allEdges, e.id = h) true (fun _ => false)
      (fun e => e.id == h) ((empty.run ops).deleteEdge h) ∧
    (∀ err, (empty.run ops).deleteNode h = .error err →
      (empty.run ops).perform (.edit (.deleteNode h)) = empty.run ops) ∧
    ∀ err, (empty.run ops).deleteEdge h = .error err →
      (empty.run ops).perform (.edit (.deleteEdge h)) = empty.run ops := by
  have ok := run_ok ops empty_ok (n := 0) (by rw [Nat.zero_add]; exact hcalls)
  rw [Nat.zero_add] at ok
  exact ⟨ok.deletesNode hcalls h, ok.deletesEdge hcalls h, fun _ herr => orKeep_error herr,
    fun _ herr => orKeep_error herr⟩

/-- Two roads to an island, one around it, and a ferry from there that a walker is on. -/
def island : List Operation :=
  let town := Architype.new "m" ⟨.node, "Town"⟩
  let road := Architype.new "m" ⟨.edge, "Road"⟩
  [.edit (.createNode town []), .edit (.createNode town []), .edit (.createNode town []),
    .edit (.createEdge road (.node 0 1) (.node 1 1) true []),
    .edit (.createEdge road (.node 0 1) (.node 0 1) true []),
    .edit (.createEdge road (.node 1 1) (.node 2 1) true []),
    .edit (.createEdge road (.node 1 1) (.node 0 1) false []), .pin (.edge 2 1)]

theorem deletion_island : calls island < 2 ^ 32 - 1 ∧
    (∃ t, (empty.run island).deleteNode (.node 0 1) = .ok t ∧
      t.allEdges.map Edge.id = [.edge 2 1] ∧
      Without (empty.run island) t (· == .node 0 1)
        fun e => e.source == .node 0 1 || e.target == .node 0 1) ∧
    (∃ k, (empty.run island).deleteNode (.node 1 1) = .error (.pinned (.node 1 1) k)) ∧
    (empty.run island).deleteEdge (.edge 2 2) = .error (.dangling true (.edge 2 2)) ∧
    (empty.run island).perform (.edit (.deleteEdge (.edge 2 2))) = empty.run island := by
  obtain ⟨hfirst, -⟩ := deletion_of_run island (by decide) (.node 0 1)
  obtain ⟨hsecond, -⟩ := deletion_of_run island (by decide) (.node 1 1)
  obtain ⟨-, -, -, hkept⟩ := deletion_of_run island (by decide) (.edge 2 2)
  have hlive : (empty.run island).allNodes[1] ∈ (empty.run island).allNodes :=
    List.getElem_mem (by decide)
  exact ⟨by decide, ⟨_, rfl, rfl, hfirst.removes _ rfl⟩,
    hsecond.pinned.2 ⟨⟨_, hlive, rfl⟩, .edge 2 1, List.mem_cons_self, Or.inr rfl⟩, rfl,
    hkept _ rfl⟩

end Store

end GraphWalk
