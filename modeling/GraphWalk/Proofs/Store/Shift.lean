import GraphWalk.Proofs.Store.Run

/-!
# What operations do to the slots

Whatever a store has been through, an operation does one of three things to its two
arenas (`Shift`): it adds a node, it adds an edge and lists it at nodes, or it only
changes and removes items that are there, which keep their architype (`Arena.Worn`).
`perform_shift` says so of every operation, refused ones included, and `perform_pins`
that nothing is pinned which is not live. Neither asks for a store in order, so both
hold along runs of any length.
-/

namespace GraphWalk

namespace Arena

variable {α β : Type} {kept : α → β} {a b c : Arena α}

/-- Some items of `a` have been changed, though not in what is `kept`, and some removed. -/
inductive Worn (kept : α → β) (a : Arena α) : Arena α → Prop where
  | refl : Worn kept a a
  | update {b : Arena α} (i : UInt32) {f : α → α} (hf : ∀ x, kept (f x) = kept x)
      (h : Worn kept a b) : Worn kept a (b.update i f)
  | remove {b : Arena α} {i g : UInt32} {x : α} (h : Worn kept a b)
      (hx : b.get? i g = some x) : Worn kept a (b.remove i)

theorem Worn.trans (h : a.Worn kept b) (h' : b.Worn kept c) : a.Worn kept c := by
  induction h' with
  | refl => exact h
  | update i hf _ ih => exact ih.update i hf
  | remove _ hx ih => exact ih.remove hx

end Arena

namespace Store

open Arena (Worn)

variable {s s' t : Store} {h k : Handle} {as : List Architype}

/-- The architypes that a change brings along. -/
def Edit.archs : Edit → List Architype
  | .createNode a _ | .createEdge a .. => [a]
  | _ => []

/-- The architypes that an operation brings along. -/
def Operation.archs : Operation → List Architype
  | .edit e => e.archs
  | _ => []

/-- What an operation does to the slots with the architypes that it brings along; the
handle is the one that it returns. -/
inductive Shift (as : List Architype) (s s' : Store) : Option Handle → Prop where
  | worn (nodes : s.nodes.Worn Node.arch s'.nodes) (edges : s.edges.Worn Edge.arch s'.edges) :
      Shift as s s' none
  | node (make : UInt32 → UInt32 → Node) (named : ∀ i g, (make i g).id = .node i g)
      (arch : ∀ i g, (make i g).arch ∈ as)
      (nodes : s'.nodes = (s.nodes.insert make).1) (edges : s'.edges = s.edges) :
      Shift as s s' (some (s.nodes.insert make).2.id)
  | edge (make : UInt32 → UInt32 → Edge) (named : ∀ i g, (make i g).id = .edge i g)
      (arch : ∀ i g, (make i g).arch ∈ as)
      (nodes : s.nodes.Worn Node.arch s'.nodes) (edges : s'.edges = (s.edges.insert make).1) :
      Shift as s s' (some (s.edges.insert make).2.id)

/-- The handle that an operation returns, if it creates an instance. -/
def returned? (s : Store) : Operation → Option Handle
  | .edit (.createNode a init) => (s.createNode a init).toOption.map (·.2.id)
  | .edit (.createEdge a source target directed init) =>
    (s.createEdge a source target directed init).toOption.map (·.2.id)
  | _ => none

theorem Shift.refl (s : Store) : Shift as s s none := .worn .refl .refl

/-! ## Creation -/

/-- **A node** is inserted under the handle that is returned. -/
theorem createNode_shift {a : Architype} {init : List (String × Value)} {n : Node}
    (h : s.createNode a init = .ok (s', n)) : Shift [a] s s' (some n.id) := by
  obtain ⟨-, fields, -, rfl, rfl⟩ := createNode_eq h
  exact .node _ (fun _ _ => rfl) (fun _ _ => List.mem_singleton_self _) rfl rfl

/-- A new edge is only listed at nodes. -/
theorem createEdge_worn {a : Architype} {source target : Handle} {directed : Bool}
    {init : List (String × Value)} {e : Edge}
    (h : s.createEdge a source target directed init = .ok (s', e)) :
    s.nodes.Worn Node.arch s'.nodes := by
  obtain ⟨-, fields, -, -, -, -, -, -, hs⟩ := createEdge_eq h
  rw [hs]
  simp only
  split
  · exact .update _ (fun _ => rfl) .refl
  · exact .update _ (fun _ => rfl) (.update _ (fun _ => rfl) .refl)

/-- **An edge** is inserted under the handle that is returned. -/
theorem createEdge_shift {a : Architype} {source target : Handle} {directed : Bool}
    {init : List (String × Value)} {e : Edge}
    (h : s.createEdge a source target directed init = .ok (s', e)) :
    Shift [a] s s' (some e.id) := by
  obtain ⟨-, fields, -, -, -, rfl, hedges, -, -⟩ := createEdge_eq h
  exact .edge _ (fun _ _ => rfl) (fun _ _ => List.mem_singleton_self _) (createEdge_worn h) hedges

/-! ## Deletion -/

theorem detach_worn (e n : Handle) : s.nodes.Worn Node.arch (s.detach e n).nodes := by
  unfold detach
  split
  · exact .update _ (fun _ => rfl) .refl
  · exact .refl

/-- Removing an edge empties its slot, if it is live. -/
theorem removeEdge_edges (h : Handle) :
    (s.edge? h = none ∧ s.removeEdge h = s) ∨
      ∃ e, s.edge? h = some e ∧ (s.removeEdge h).edges = s.edges.remove h.index := by
  cases he : s.edge? h with
  | none => exact Or.inl ⟨rfl, removeEdge_dead he⟩
  | some e =>
    refine Or.inr ⟨e, rfl, ?_⟩
    unfold removeEdge
    rw [he]
    simp only [detach_edges]

/-- Removing an edge takes it off the lists at its ends, and empties its slot. -/
theorem removeEdge_worn (h : Handle) :
    s.nodes.Worn Node.arch (s.removeEdge h).nodes ∧
      s.edges.Worn Edge.arch (s.removeEdge h).edges := by
  refine ⟨?_, ?_⟩
  · unfold removeEdge
    split
    · exact .refl
    · exact (detach_worn _ _).trans (detach_worn _ _)
  · rcases removeEdge_edges (s := s) h with ⟨-, hs⟩ | ⟨e, he, hs⟩
    · rw [hs]; exact .refl
    · rw [hs]; exact .remove .refl (edge?_eq_some.1 he).2

theorem removeEdges_worn (hs : List Handle) :
    ∀ s : Store, s.nodes.Worn Node.arch (hs.foldl removeEdge s).nodes ∧
      s.edges.Worn Edge.arch (hs.foldl removeEdge s).edges := by
  induction hs with
  | nil => exact fun s => ⟨.refl, .refl⟩
  | cons h hs ih =>
    intro s
    obtain ⟨hn, he⟩ := removeEdge_worn (s := s) h
    obtain ⟨hn', he'⟩ := ih (s.removeEdge h)
    exact ⟨hn.trans hn', he.trans he'⟩

theorem removeEdge_node? (k v : Handle) :
    ((s.removeEdge k).node? v).isSome = (s.node? v).isSome := by
  unfold removeEdge
  split
  · rfl
  · show (((s.detach k _).detach k _).node? v).isSome = _
    rw [node?_detach, Option.isSome_map, node?_detach, Option.isSome_map]

/-- Removing edges leaves all nodes there. -/
theorem removeEdges_node? (hs : List Handle) (v : Handle) :
    ∀ s : Store, ((hs.foldl removeEdge s).node? v).isSome = (s.node? v).isSome := by
  induction hs with
  | nil => exact fun s => rfl
  | cons h hs ih => exact fun s => (ih _).trans (removeEdge_node? h v)

theorem deleteEdge_shift (hd : s.deleteEdge h = .ok s') : Shift as s s' none := by
  obtain ⟨-, -, rfl⟩ := deleteEdge_eq hd
  exact .worn (removeEdge_worn h).1 (removeEdge_worn h).2

theorem deleteNode_shift (hd : s.deleteNode h = .ok s') : Shift as s s' none := by
  obtain ⟨n, hn, -, -, rfl⟩ := deleteNode_eq hd
  obtain ⟨hnodes, hedges⟩ := removeEdges_worn n.edges s
  -- the node is still in its slot when its edges are gone
  have hlive := removeEdges_node? n.edges h s
  rw [hn, Option.isSome_some] at hlive
  obtain ⟨x, hx⟩ := Option.isSome_iff_exists.1 hlive
  exact .worn (hnodes.remove (node?_eq_some.1 hx).2) hedges

theorem delete_shift (hd : s.delete h = .ok s') : Shift as s s' none := by
  unfold delete at hd
  split at hd
  · exact deleteEdge_shift hd
  · exact deleteNode_shift hd

/-! ## All operations -/

theorem setFields_shift (s : Store) (h : Handle) (f : Fields) :
    Shift as s (s.setFields h f) none := by
  unfold setFields
  split
  · exact .worn (.update _ (fun _ => rfl) .refl) .refl
  · exact .worn .refl (.update _ (fun _ => rfl) .refl)
  · exact .refl s

theorem pin_shift (hp : s.pin h = .ok s') : Shift as s s' none := by
  obtain ⟨-, rfl⟩ := pin_eq hp
  exact .worn .refl .refl

/-- **Every operation** shifts the slots, whether it is refused or not. -/
theorem perform_shift (s : Store) (op : Operation) :
    Shift op.archs s (s.perform op) (s.returned? op) := by
  have kept : ∀ {r : Except StoreError Store}, (∀ t, r = .ok t → Shift op.archs s t none) →
      Shift op.archs s (s.orKeep r) none := fun hr => orKeep_ok (.refl s) hr
  cases op with
  | edit e =>
    cases e with
    | createNode a init =>
      show Shift [a] s (s.orKeep _) ((s.createNode a init).toOption.map _)
      cases hc : s.createNode a init with
      | error err => exact .refl s
      | ok p => exact createNode_shift hc
    | createEdge a source target directed init =>
      show Shift [a] s (s.orKeep _) ((s.createEdge a source target directed init).toOption.map _)
      cases hc : s.createEdge a source target directed init with
      | error err => exact .refl s
      | ok p => exact createEdge_shift hc
    | deleteNode h => exact kept fun t ht => deleteNode_shift ht
    | deleteEdge h => exact kept fun t ht => deleteEdge_shift ht
    | delete h => exact kept fun t ht => delete_shift ht
    | setFields h f => exact setFields_shift s h f
  | pin h => exact kept fun t ht => pin_shift ht
  | unpin h => exact .worn .refl .refl

/-- What is pinned after an operation was pinned before, or is live. -/
theorem perform_pins (s : Store) (op : Operation) :
    ∀ h ∈ (s.perform op).pins, h ∈ s.pins ∨ s.contains h = true := by
  intro h hm
  cases op with
  | edit e =>
    rw [show (s.perform (.edit e)).pins = s.pins from edit_pins s e] at hm
    exact Or.inl hm
  | pin k =>
    revert hm
    refine orKeep_ok (P := fun t => h ∈ t.pins → _) Or.inl fun t ht hm => ?_
    obtain ⟨hc, rfl⟩ := pin_eq ht
    rcases List.mem_cons.1 hm with rfl | hm
    · exact Or.inr hc
    · exact Or.inl hm
  | unpin k => exact Or.inl (List.mem_of_mem_erase hm)

end Store

end GraphWalk
