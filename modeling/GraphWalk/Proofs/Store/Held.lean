import GraphWalk.Proofs.Store.Shift

/-!
# What is pinned stays live

Only a deletion empties slots, and it empties those of the node or edge it is asked to
delete and of the edges on the node's list. Of these it has checked that none is pinned.
So an operation that keeps to the pins leaves everything live that is pinned
(`Anchored.perform`), whatever the store has been through.

Main result: `Anchored.run`. **Whatever is pinned is live** after runs of any length.
-/

namespace GraphWalk

namespace Arena

variable {α : Type} {a : Arena α} {i g : UInt32}

theorem isSome_get? :
    (a.get? i g).isSome = true ↔ ∃ x, a.slots[i.toNat]? = some ⟨g, some x⟩ ∧ g ≠ 0 := by
  rw [Option.isSome_iff_exists]
  exact exists_congr fun x => get?_eq_some

theorem isSome_update (j : UInt32) (f : α → α) :
    ((a.update j f).get? i g).isSome = (a.get? i g).isSome := by
  rw [get?_update]
  split
  · exact Option.isSome_map
  · rfl

/-- **An insertion empties no slot**, also where the arena has run out of indices and the
new item takes the place of another one: that slot is still filled, under its generation. -/
theorem isSome_insert (make : UInt32 → UInt32 → α) (h : (a.get? i g).isSome = true) :
    ((a.insert make).1.get? i g).isSome = true := by
  obtain ⟨x, hs, h0⟩ := isSome_get?.1 h
  have hlt := lt_size hs
  have hreserve : a.reserve.1.slots[i.toNat]? = some ⟨g, some x⟩ := by
    unfold reserve
    split
    · exact hs
    · simp only
      rw [Array.getElem?_push, if_neg (by omega)]
      exact hs
  rw [isSome_get?]
  unfold insert fill
  simp only [Array.getElem?_modify, hreserve]
  split
  · exact ⟨_, rfl, h0⟩
  · exact ⟨x, rfl, h0⟩

end Arena

namespace Store

variable {s s' : Store} {h v : Handle}

/-- What is live stays so where the slots of both arenas stay filled. -/
theorem contains_mono
    (hn : ∀ i g, (s.nodes.get? i g).isSome = true → (s'.nodes.get? i g).isSome = true)
    (he : ∀ i g, (s.edges.get? i g).isSome = true → (s'.edges.get? i g).isSome = true)
    (hv : s.contains v = true) : s'.contains v = true := by
  rw [contains_iff] at hv ⊢
  unfold node? edge? at hv ⊢
  refine hv.imp (fun hv => ?_) fun hv => ?_
  · split at hv
    · rename_i hk
      rw [if_pos hk]
      exact hn _ _ hv
    · cases hv
  · split at hv
    · rename_i hk
      rw [if_pos hk]
      exact he _ _ hv
    · cases hv

/-! ## One operation -/

theorem createNode_contains {a : Architype} {init : List (String × Value)} {n : Node}
    (hc : s.createNode a init = .ok (s', n)) (hv : s.contains v = true) :
    s'.contains v = true := by
  obtain ⟨-, fields, -, rfl, -⟩ := createNode_eq hc
  refine contains_mono (s := s) (fun i g hi => ?_) (fun i g hi => hi) hv
  exact Arena.isSome_insert (fun i g => (⟨.node i g, a, fields, []⟩ : Node)) hi

theorem createEdge_contains {a : Architype} {source target : Handle} {directed : Bool}
    {init : List (String × Value)} {e : Edge}
    (hc : s.createEdge a source target directed init = .ok (s', e)) (hv : s.contains v = true) :
    s'.contains v = true := by
  obtain ⟨-, fields, -, -, -, -, hedges, -, hs⟩ := createEdge_eq hc
  refine contains_mono (s := s) (fun i g hi => ?_) (fun i g hi => ?_) hv
  · -- the lists of the ends change, the nodes stay where they are
    rw [hs]
    simp only [attach]
    split <;> simpa only [Arena.isSome_update] using hi
  · rw [hedges]
    exact Arena.isSome_insert _ hi

theorem setFields_contains (h : Handle) (f : Fields) (hv : s.contains v = true) :
    (s.setFields h f).contains v = true := by
  unfold setFields
  split
  · refine contains_mono (s := s) (fun i g hi => ?_) (fun i g hi => hi) hv
    rwa [Arena.isSome_update]
  · refine contains_mono (s := s) (fun i g hi => hi) (fun i g hi => ?_) hv
    rwa [Arena.isSome_update]
  · exact hv

/-- Removing an edge leaves everything else live. -/
theorem removeEdge_contains (hne : v ≠ h) (hv : s.contains v = true) :
    (s.removeEdge h).contains v = true := by
  rw [contains_iff] at hv ⊢
  refine hv.imp (fun hn => ?_) fun he => ?_
  · rwa [removeEdge_node?]
  · rcases removeEdge_edges (s := s) h with ⟨-, hs⟩ | ⟨e, hh, hs⟩
    · rwa [hs]
    · rw [edge?_congr (t := { s with edges := s.edges.remove h.index }) hs, edge?_remove hh,
        if_neg hne]
      exact he

theorem removeEdges_contains (hs : List Handle) :
    ∀ {s : Store}, v ∉ hs → s.contains v = true → (hs.foldl removeEdge s).contains v = true := by
  induction hs with
  | nil => exact fun _ hv => hv
  | cons h hs ih =>
    intro s hm hv
    obtain ⟨hne, hm⟩ := not_or.1 (mt List.mem_cons.2 hm)
    exact ih hm (removeEdge_contains hne hv)

theorem deleteEdge_contains (hd : s.deleteEdge h = .ok s') (hp : v ∈ s.pins)
    (hv : s.contains v = true) : s'.contains v = true := by
  obtain ⟨-, hfree, rfl⟩ := deleteEdge_eq hd
  refine removeEdge_contains ?_ hv
  rintro rfl
  exact isPinned_eq_false.1 hfree hp

/-- Deleting a node leaves what is pinned live: neither the node nor an edge on its list is. -/
theorem deleteNode_contains (hd : s.deleteNode h = .ok s') (hp : v ∈ s.pins)
    (hv : s.contains v = true) : s'.contains v = true := by
  obtain ⟨n, hn, hfree, hedges, rfl⟩ := deleteNode_eq hd
  have hne : v ≠ h := by
    rintro rfl
    exact isPinned_eq_false.1 hfree hp
  have hm : v ∉ n.edges := fun hm => isPinned_eq_false.1 (hedges v hm) hp
  have hlive := removeEdges_contains n.edges hm hv
  -- the node is still there when its edges are gone, so its slot is the one that is emptied
  have hthere := removeEdges_node? n.edges h s
  rw [hn, Option.isSome_some] at hthere
  obtain ⟨x, hx⟩ := Option.isSome_iff_exists.1 hthere
  rw [contains_iff, node?_remove hx, if_neg hne]
  exact contains_iff.1 hlive

theorem delete_contains (hd : s.delete h = .ok s') (hp : v ∈ s.pins)
    (hv : s.contains v = true) : s'.contains v = true := by
  unfold delete at hd
  split at hd
  · exact deleteEdge_contains hd hp hv
  · exact deleteNode_contains hd hp hv

/-- **No change of the graph removes what is pinned.** -/
theorem edit_contains (e : Edit) (hp : v ∈ s.pins) (hv : s.contains v = true) :
    (s.edit e).contains v = true := by
  have kept : ∀ {r : Except StoreError Store}, (∀ t, r = .ok t → t.contains v = true) →
      (s.orKeep r).contains v = true := fun hr => orKeep_ok (P := (·.contains v = true)) hv hr
  cases e with
  | createNode a init =>
    simp only [edit]
    cases hc : s.createNode a init with
    | error err => exact hv
    | ok p => exact createNode_contains hc hv
  | createEdge a source target directed init =>
    simp only [edit]
    cases hc : s.createEdge a source target directed init with
    | error err => exact hv
    | ok p => exact createEdge_contains hc hv
  | deleteNode h => exact kept fun t ht => deleteNode_contains ht hp hv
  | deleteEdge h => exact kept fun t ht => deleteEdge_contains ht hp hv
  | delete h => exact kept fun t ht => delete_contains ht hp hv
  | setFields h f => exact setFields_contains h f hv

theorem Anchored.pin (ha : s.Anchored) (hp : s.pin h = .ok s') : s'.Anchored := by
  obtain ⟨hc, rfl⟩ := pin_eq hp
  intro v hv
  rcases List.mem_cons.1 hv with rfl | hv
  · exact hc
  · exact ha v hv

theorem Anchored.unpin (ha : s.Anchored) (h : Handle) : (s.unpin h).Anchored :=
  fun v hv => ha v (List.mem_of_mem_erase hv)

/-- **An operation** leaves what is pinned live. -/
theorem Anchored.perform (ha : s.Anchored) (op : Operation) : (s.perform op).Anchored := by
  cases op with
  | edit e => exact ha.mono (edit_pins s e) fun v hp hv => edit_contains e hp hv
  | pin h => exact orKeep_ok ha fun t ht => ha.pin ht
  | unpin h => exact ha.unpin h

/-- **Whatever is pinned is live**, after runs of any length. -/
theorem Anchored.run (ops : List Operation) :
    ∀ {s : Store}, s.Anchored → (s.run ops).Anchored := by
  induction ops with
  | nil => exact fun ha => ha
  | cons op ops ih => exact fun ha => ih (ha.perform op)

end Store

end GraphWalk
