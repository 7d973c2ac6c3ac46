import GraphWalk.Proofs.Store.Run

/-!
# The records of a store fit together

`Represented created` says what slots, edges, lists of incident edges, free lists and
counts of a store have to do with each other. `represented_of_run`: **it holds after
every run of fewer than `2^32 - 1` calls**, with `created` the edges of the run in the
order in which they were made.
-/

namespace GraphWalk

namespace Store

variable {s : Store} {h : Handle} {created : List Handle} {n : Nat}

/-- **The records of a store fit together.** Every filled slot holds an instance that
carries the slot's index and generation and is found by its handle; edges end at live
nodes; the list of a node holds the edges at it, each once, in the order in which they
were created; the free lists hold the empty slots; and the counts are right. -/
structure Represented (created : List Handle) (s : Store) : Prop where
  node_slot : ∀ (i : Nat) (slot : Slot Node) (x : Node), s.nodes.slots[i]? = some slot →
    slot.item = some x →
      x.id.kind = .node ∧ x.id.index.toNat = i ∧ x.id.gen = slot.gen ∧ s.node x.id = .ok x
  edge_slot : ∀ (i : Nat) (slot : Slot Edge) (e : Edge), s.edges.slots[i]? = some slot →
    slot.item = some e →
      e.id.kind = .edge ∧ e.id.index.toNat = i ∧ e.id.gen = slot.gen ∧ s.edge e.id = .ok e
  ends : ∀ e ∈ s.allEdges, (∃ x, s.node e.source = .ok x) ∧ ∃ x, s.node e.target = .ok x
  incident : ∀ x ∈ s.allNodes, ∀ h, h ∈ x.edges ↔
    ∃ e ∈ s.allEdges, e.id = h ∧ (e.source = x.id ∨ e.target = x.id)
  incident_nodup : ∀ x ∈ s.allNodes, x.edges.Nodup
  incident_order : ∀ x ∈ s.allNodes, x.edges.Sublist created
  created_nodup : created.Nodup
  free_nodes : s.nodes.free.Nodup ∧ ∀ i : Nat, i ∈ s.nodes.free.map UInt32.toNat ↔
    ∃ slot, s.nodes.slots[i]? = some slot ∧ slot.item = none
  free_edges : s.edges.free.Nodup ∧ ∀ i : Nat, i ∈ s.edges.free.map UInt32.toNat ↔
    ∃ slot, s.edges.slots[i]? = some slot ∧ slot.item = none
  size : s.size = (s.allNodes.length, s.allEdges.length)

/-- What is in a slot is found by its handle, since no generation is zero. -/
theorem Slots.node_slot (ok : s.Slots n) {i : Nat} {slot : Slot Node} {x : Node}
    (hs : s.nodes.slots[i]? = some slot) (hx : slot.item = some x) :
    x.id.kind = .node ∧ x.id.index.toNat = i ∧ x.id.gen = slot.gen ∧ s.node? x.id = some x := by
  have hi : i.toUInt32.toNat = i :=
    Arena.toNat_toUInt32 (lt_of_lt_of_le (Arena.lt_size hs) ok.nodes.size_le)
  -- generations start at one and have not run out
  have hg : slot.gen ≠ 0 := by
    intro h0
    have := ok.nodes_young.gen_pos i slot hs
    simp [h0] at this
  rw [ok.node_named i slot x hs hx]
  refine ⟨rfl, hi, rfl, node?_eq_some.2 ⟨rfl, Arena.get?_eq_some.2 ⟨?_, hg⟩⟩⟩
  simp only [Handle.node, hi]
  rw [hs, ← hx]

theorem Slots.edge_slot (ok : s.Slots n) {i : Nat} {slot : Slot Edge} {e : Edge}
    (hs : s.edges.slots[i]? = some slot) (he : slot.item = some e) :
    e.id.kind = .edge ∧ e.id.index.toNat = i ∧ e.id.gen = slot.gen ∧ s.edge? e.id = some e := by
  have hi : i.toUInt32.toNat = i :=
    Arena.toNat_toUInt32 (lt_of_lt_of_le (Arena.lt_size hs) ok.edges.size_le)
  have hg : slot.gen ≠ 0 := by
    intro h0
    have := ok.edges_young.gen_pos i slot hs
    simp [h0] at this
  rw [ok.edge_named i slot e hs he]
  refine ⟨rfl, hi, rfl, edge?_eq_some.2 ⟨rfl, Arena.get?_eq_some.2 ⟨?_, hg⟩⟩⟩
  simp only [Handle.edge, hi]
  rw [hs, ← he]

/-- The nodes of a store are those that are found by their handles. -/
theorem Slots.mem_allNodes (ok : s.Slots n) {x : Node} :
    x ∈ s.allNodes ↔ s.node? x.id = some x := by
  unfold allNodes
  rw [Arena.mem_items]
  constructor
  · rintro ⟨i, slot, hs, hx⟩
    exact (ok.node_slot hs hx).2.2.2
  · intro h
    exact ⟨_, _, (Arena.get?_eq_some.1 (node?_eq_some.1 h).2).1, rfl⟩

theorem Slots.mem_allEdges (ok : s.Slots n) {e : Edge} :
    e ∈ s.allEdges ↔ s.edge? e.id = some e := by
  unfold allEdges
  rw [Arena.mem_items]
  constructor
  · rintro ⟨i, slot, hs, he⟩
    exact (ok.edge_slot hs he).2.2.2
  · intro h
    exact ⟨_, _, (Arena.get?_eq_some.1 (edge?_eq_some.1 h).2).1, rfl⟩

/-- A node carries the handle under which it is found. -/
theorem Slots.node_id (ok : s.Slots n) {x : Node} (hx : s.node? h = some x) : x.id = h := by
  obtain ⟨hk, hg⟩ := node?_eq_some.1 hx
  rw [ok.node_named.get? hg]
  cases h
  simp only at hk
  subst hk
  rfl

/-- **A handle is looked up** among all nodes. -/
theorem Slots.node?_iff (ok : s.Slots n) {x : Node} :
    s.node? h = some x ↔ x ∈ s.allNodes ∧ x.id = h := by
  constructor
  · intro hx
    obtain rfl := ok.node_id hx
    exact ⟨ok.mem_allNodes.2 hx, rfl⟩
  · rintro ⟨hx, rfl⟩
    exact ok.mem_allNodes.1 hx

theorem Slots.edge?_iff (ok : s.Slots n) {e : Edge} :
    s.edge? h = some e ↔ e ∈ s.allEdges ∧ e.id = h := by
  constructor
  · intro he
    obtain rfl := ok.edge_id he
    exact ⟨ok.mem_allEdges.2 he, rfl⟩
  · rintro ⟨he, rfl⟩
    exact ok.mem_allEdges.1 he

/-- No two nodes of a store have one handle. -/
theorem Slots.nodup_allNodes (ok : s.Slots n) : (s.allNodes.map Node.id).Nodup :=
  Arena.nodup_items ok.node_named ok.nodes.size_le fun h => congrArg Handle.index h

theorem Slots.nodup_allEdges (ok : s.Slots n) : (s.allEdges.map Edge.id).Nodup :=
  Arena.nodup_items ok.edge_named ok.edges.size_le fun h => congrArg Handle.index h

theorem node_eq_ok {x : Node} : s.node h = .ok x ↔ s.node? h = some x := by
  unfold node
  cases s.node? h <;> simp

theorem edge_eq_ok {e : Edge} : s.edge h = .ok e ↔ s.edge? h = some e := by
  unfold edge
  cases s.edge? h <;> simp

/-- **A store in order** has records that fit together. -/
theorem OK.represented (ok : s.OK n created) : s.Represented created := by
  have hn := fun {x : Node} => ok.slots.mem_allNodes (x := x)
  have he := fun {e : Edge} => ok.slots.mem_allEdges (e := e)
  refine ⟨?_, ?_, ?_, ?_, ?_, ?_, ok.joined.nodup, ?_, ?_, ?_⟩
  · intro i slot x hs hx
    rw [node_eq_ok]
    exact ok.slots.node_slot hs hx
  · intro i slot e hs he
    rw [edge_eq_ok]
    exact ok.slots.edge_slot hs he
  · intro e hm
    simp only [node_eq_ok, ← Option.isSome_iff_exists]
    exact ⟨ok.joined.source (he.1 hm), ok.joined.target (he.1 hm)⟩
  · intro x hm h
    -- the handles on the list are those of live edges, which carry them
    rw [ok.joined.mem_edges (hn.1 hm), touches_iff]
    simp only [ok.slots.edge?_iff, and_assoc]
  · intro x hm
    rw [ok.joined.incident (hn.1 hm)]
    exact ok.joined.nodup.filter _
  · intro x hm
    rw [ok.joined.incident (hn.1 hm)]
    exact List.filter_sublist
  · exact ⟨ok.slots.nodes.free_nodup, ok.slots.nodes.mem_free_toNat⟩
  · exact ⟨ok.slots.edges.free_nodup, ok.slots.edges.mem_free_toNat⟩
  · unfold size allNodes allEdges
    rw [Arena.length_items ok.slots.nodes, Arena.length_items ok.slots.edges]

/-- **After every run of fewer than `2^32 - 1` calls the records fit together**, whether
the calls succeeded or were refused. -/
theorem represented_of_run (ops : List Operation) (h : calls ops < 2 ^ 32 - 1) :
    (empty.run ops).Represented (empty.createdEdges ops) := by
  have := run_ok ops empty_ok (n := 0) (by rw [Nat.zero_add]; exact h)
  exact this.represented

/-- Two nodes, an edge between them and a loop; the first node is pinned and cannot be
deleted, the second is, with its edge; its slot is used again. -/
def reuse : List Operation :=
  let node := Architype.new "m" ⟨.node, "N"⟩
  let edge := Architype.new "m" ⟨.edge, "E"⟩
  [.edit (.createNode node []), .edit (.createNode node []),
    .edit (.createEdge edge (.node 0 1) (.node 1 1) true []),
    .edit (.createEdge edge (.node 0 1) (.node 0 1) false []),
    .pin (.node 0 1), .edit (.deleteNode (.node 0 1)), .edit (.delete (.node 1 1)),
    .edit (.createNode node []), .unpin (.node 0 1)]

theorem represented_reuse :
    calls reuse < 2 ^ 32 - 1 ∧ (empty.run reuse).Represented (empty.createdEdges reuse) :=
  ⟨by decide, represented_of_run reuse (by decide)⟩

end Store

end GraphWalk
