import GraphWalk.Proofs.Store.Joined

/-!
# Runs of store operations

`Operation` lists what can be asked of a store; `perform` does it, and a refused
operation changes nothing. `createdEdges` are the handles of the edges that a run
creates, in their order.

`OK n created` is the invariant of a store after `n` calls: its slots are in order,
edges and lists agree, and whatever is pinned is live. `perform_ok` keeps it along
one operation and `run_ok` along a run, as long as fewer than `2^32 - 1` calls are
made, so that no generation wraps.
-/

namespace GraphWalk

namespace Store

/-- A change of the graph. -/
inductive Edit where
  | createNode (a : Architype) (init : List (String × Value))
  | createEdge (a : Architype) (source target : Handle) (directed : Bool)
      (init : List (String × Value))
  | deleteNode (h : Handle)
  | deleteEdge (h : Handle)
  | delete (h : Handle)
  /-- The fields of an instance are written; the store is not asked for that. -/
  | setFields (h : Handle) (f : Fields)

inductive Operation where
  | edit (e : Edit)
  | pin (h : Handle)
  | unpin (h : Handle)

/-- Whether the change is a call of the store. -/
def Edit.isCall : Edit → Bool
  | .setFields .. => false
  | _ => true

def Operation.isCall : Operation → Bool
  | .edit e => e.isCall
  | _ => true

/-- The number of calls of the store among operations. -/
def calls (ops : List Operation) : Nat := ops.countP Operation.isCall

theorem calls_cons (op : Operation) (ops : List Operation) :
    calls (op :: ops) = (if op.isCall then 1 else 0) + calls ops := by
  unfold calls
  rw [List.countP_cons]
  omega

/-- The store that an operation leaves: the old one if it is refused. -/
def orKeep (s : Store) (r : Except StoreError Store) : Store := r.toOption.getD s

def edit (s : Store) : Edit → Store
  | .createNode a init => s.orKeep ((s.createNode a init).map (·.1))
  | .createEdge a source target directed init =>
    s.orKeep ((s.createEdge a source target directed init).map (·.1))
  | .deleteNode h => s.orKeep (s.deleteNode h)
  | .deleteEdge h => s.orKeep (s.deleteEdge h)
  | .delete h => s.orKeep (s.delete h)
  | .setFields h f => s.setFields h f

def perform (s : Store) : Operation → Store
  | .edit e => s.edit e
  | .pin h => s.orKeep (s.pin h)
  | .unpin h => s.unpin h

def run (s : Store) (ops : List Operation) : Store := ops.foldl perform s

theorem run_append (s : Store) (ops ops' : List Operation) :
    s.run (ops ++ ops') = (s.run ops).run ops' := List.foldl_append

/-- The handle of the edge that a change creates, if it does. -/
def edgeOf? (s : Store) : Edit → Option Handle
  | .createEdge a source target directed init =>
    (s.createEdge a source target directed init).toOption.map (·.2.id)
  | _ => none

def newEdge? (s : Store) : Operation → Option Handle
  | .edit e => s.edgeOf? e
  | _ => none

/-- The handles of the edges that a run creates, in their order. -/
def createdEdges : Store → List Operation → List Handle
  | _, [] => []
  | s, op :: ops => (s.newEdge? op).toList ++ createdEdges (s.perform op) ops

variable {s s' : Store} {h : Handle} {created : List Handle} {n : Nat}

/-- **The invariant** of a store after `n` calls. -/
structure OK (n : Nat) (created : List Handle) (s : Store) : Prop where
  slots : s.Slots n
  joined : s.Joined created
  anchored : s.Anchored

/-- An empty store is in order. -/
theorem empty_ok : OK 0 [] empty := by
  have hn : ∀ v, empty.node? v = none := fun v => by
    unfold node?; split <;> rfl
  have he : ∀ k, empty.edge? k = none := fun k => by
    unfold edge?; split <;> rfl
  have hslots : ∀ {α : Type}, (Arena.empty : Arena α).OK := fun {α} =>
    ⟨by simp [Arena.empty], List.nodup_nil, fun i => by simp [Arena.empty], by simp [Arena.empty]⟩
  have hyoung : ∀ {α : Type}, (Arena.empty : Arena α).Young 0 := fun {α} =>
    ⟨by simp [Arena.empty], fun j slot h => by simp [Arena.empty] at h,
      fun j slot h => by simp [Arena.empty] at h⟩
  refine ⟨⟨hslots, hslots, hyoung, hyoung, ?_, ?_⟩, ⟨?_, ?_, ?_, List.nodup_nil, ?_, ?_, ?_⟩, ?_⟩
  · intro j slot x h; simp [empty, Arena.empty] at h
  · intro j slot x h; simp [empty, Arena.empty] at h
  · intro k e h; rw [he] at h; cases h
  · intro k e h; rw [he] at h; cases h
  · intro v x h; rw [hn] at h; cases h
  · intro k e h; rw [he] at h; cases h
  · intro k h; cases h
  · intro k h; cases h
  · intro v h; cases h

theorem OK.mono {m : Nat} (ok : s.OK m created) (hmn : m ≤ n) : s.OK n created :=
  ⟨ok.slots.mono hmn, ok.joined, ok.anchored⟩

/-! ## One call -/

theorem OK.createNode (ok : s.OK n created) (hn : n < UInt32.size - 1) {a : Architype}
    {init : List (String × Value)} {x : Node} (h : s.createNode a init = .ok (s', x)) :
    s'.OK (n + 1) created := by
  obtain ⟨hs, ha⟩ := createNode_spec ok.slots (ok.slots.nodes_young.roomy (by omega)) h
  refine ⟨hs, ok.joined.nodeAdded ha, ok.anchored.mono ha.pins fun v _ hv => ?_⟩
  rw [contains_iff, ha.node?, edge?_congr ha.edges]
  rcases contains_iff.1 hv with hv | hv
  · left; split
    · rfl
    · exact hv
  · exact Or.inr hv

theorem OK.createEdge (ok : s.OK n created) (hn : n < UInt32.size - 1) {a : Architype}
    {source target : Handle} {directed : Bool} {init : List (String × Value)} {e : Edge}
    (h : s.createEdge a source target directed init = .ok (s', e)) :
    s'.OK (n + 1) (created ++ [e.id]) := by
  obtain ⟨hs, ha, -⟩ := createEdge_spec ok.slots (ok.slots.edges_young.roomy (by omega)) h
  refine ⟨hs, ok.joined.edgeAdded ha, ok.anchored.mono ha.pins fun v _ hv => ?_⟩
  rw [contains_iff, ha.node?, ha.edge?, Option.isSome_map]
  rcases contains_iff.1 hv with hv | hv
  · exact Or.inl hv
  · right; split
    · rfl
    · exact hv

theorem OK.deleteEdge (ok : s.OK n created) (hn : n < UInt32.size - 1)
    (h' : s.deleteEdge h = .ok s') : s'.OK n created := by
  obtain ⟨he, hp, rfl⟩ := deleteEdge_eq h'
  obtain ⟨e, he⟩ := Option.isSome_iff_exists.1 he
  obtain ⟨hs, hr⟩ := removeEdge_spec ok.slots hn he
  refine ⟨hs, (ok.joined.edgeRemoved he hr).1, ok.anchored.mono hr.pins fun v hm hv => ?_⟩
  have hne : v ≠ h := by
    rintro rfl
    exact isPinned_eq_false.1 hp hm
  rw [contains_iff, hr.node?, hr.edge?, Option.isSome_map, if_neg hne]
  exact contains_iff.1 hv

/-- The node and its edges go; none of them is pinned. -/
theorem OK.deleteNode (ok : s.OK n created) (hn : n < UInt32.size - 1)
    (h' : s.deleteNode h = .ok s') : s'.OK n created := by
  obtain ⟨hs, hj, x, t, -, hp, hps, hr, hr'⟩ := deleteNode_spec hn ok.slots ok.joined h'
  refine ⟨hs, hj, ok.anchored.mono (hr'.pins.trans hr.pins) fun v hm hv => ?_⟩
  have hne : v ≠ h := by
    rintro rfl
    exact hp hm
  have hnm : v ∉ x.edges := fun hv => hps v hv hm
  rw [contains_iff, hr'.node?, if_neg hne, edge?_congr hr'.edges, hr.node?, hr.edge?,
    Option.isSome_map, if_neg hnm]
  exact contains_iff.1 hv

theorem OK.delete (ok : s.OK n created) (hn : n < UInt32.size - 1) (h' : s.delete h = .ok s') :
    s'.OK n created := by
  unfold Store.delete at h'
  split at h'
  · exact ok.deleteEdge hn h'
  · exact ok.deleteNode hn h'

/-- Nodes may change but for their names and lists. -/
theorem OK.updateNode (ok : s.OK n created) {x : Node} (hx : s.node? h = some x)
    {f : Node → Node} (hid : ∀ x, (f x).id = x.id) (hedges : ∀ x, (f x).edges = x.edges) :
    ({ s with nodes := s.nodes.update h.index f } : Store).OK n created := by
  have hnode := node?_update hx f
  refine ⟨ok.slots.update _ hid, ok.joined.congr (fun v => ?_) (fun _ => rfl)
    (fun _ _ hs => hs), ok.anchored.mono rfl fun v _ hv => ?_⟩
  · rw [hnode, Option.map_map]
    congr 1
    funext y
    simp only [Function.comp]
    split
    · exact hedges y
    · rfl
  · rw [contains_iff, hnode, Option.isSome_map]
    exact contains_iff.1 hv

/-- Edges may change but for their names and ends. -/
theorem OK.updateEdge (ok : s.OK n created) (i : UInt32) {f : Edge → Edge}
    (hid : ∀ e, (f e).id = e.id) (hends : ∀ e, (f e).source = e.source ∧ (f e).target = e.target) :
    ({ s with edges := s.edges.update i f } : Store).OK n created := by
  have hedge := edge?_update (s := s) i f
  refine ⟨⟨ok.slots.nodes, ok.slots.edges.update _ _, ok.slots.nodes_young,
    ok.slots.edges_young.update _ _, ok.slots.node_named, ok.slots.edge_named.update _ hid⟩,
    ok.joined.congr (fun _ => rfl) (fun k => ?_) (fun _ _ hs => hs.update _ _),
    ok.anchored.mono rfl fun v _ hv => ?_⟩
  · rw [hedge, Option.map_map]
    congr 1
    funext e
    simp only [Function.comp]
    split
    · rw [(hends e).1, (hends e).2]
    · rfl
  · rw [contains_iff, hedge, Option.isSome_map]
    exact contains_iff.1 hv

theorem OK.setFields (ok : s.OK n created) (h : Handle) (f : Fields) :
    (s.setFields h f).OK n created := by
  unfold Store.setFields
  cases hi : s.instance? h with
  | none => exact ok
  | some inst =>
    cases inst with
    | node x => exact ok.updateNode (instance?_eq_node.1 hi) (fun _ => rfl) fun _ => rfl
    | edge x => exact ok.updateEdge h.index (fun _ => rfl) fun _ => ⟨rfl, rfl⟩

/-- Only what is live has an instance. -/
theorem instanceAt_ok {inst : Instance} (hi : s.instanceAt h = .ok inst) : s.contains h = true := by
  unfold instanceAt node edge at hi
  rw [contains_iff]
  split at hi
  · right
    cases he : s.edge? h with
    | some e => rfl
    | none => rw [he] at hi; cases hi
  · left
    cases hx : s.node? h with
    | some x => rfl
    | none => rw [hx] at hi; cases hi

theorem contains_instanceAt (hc : s.contains h = true) : ∃ inst, s.instanceAt h = .ok inst := by
  unfold contains instance? at hc
  unfold instanceAt node edge
  by_cases hk : h.kind = .edge
  · rw [if_pos hk, Option.isSome_map] at hc
    obtain ⟨e, he⟩ := Option.isSome_iff_exists.1 hc
    exact ⟨.edge e, by rw [if_pos hk, he]; rfl⟩
  · rw [if_neg hk, Option.isSome_map] at hc
    obtain ⟨x, hx⟩ := Option.isSome_iff_exists.1 hc
    exact ⟨.node x, by rw [if_neg hk, hx]; rfl⟩

theorem pin_eq (h' : s.pin h = .ok s') :
    s.contains h = true ∧ s' = { s with pins := h :: s.pins } := by
  unfold pin at h'
  split at h'
  · rename_i inst hi
    cases h'
    exact ⟨instanceAt_ok hi, rfl⟩
  · cases h'

/-- What cannot be pinned is not live. -/
theorem contains_of_pin_error {err : StoreError} (h' : s.pin h = .error err) :
    s.contains h = false := by
  rw [Bool.eq_false_iff]
  intro hc
  obtain ⟨inst, hinst⟩ := contains_instanceAt hc
  unfold pin at h'
  rw [hinst] at h'
  cases h'

/-- Other pins on live instances. -/
theorem OK.repin (ok : s.OK n created) {pins : List Handle}
    (hp : ∀ v ∈ pins, s.contains v = true) : ({ s with pins } : Store).OK n created :=
  ⟨⟨ok.slots.nodes, ok.slots.edges, ok.slots.nodes_young, ok.slots.edges_young,
    ok.slots.node_named, ok.slots.edge_named⟩,
    ok.joined.congr (fun _ => rfl) (fun _ => rfl) (fun _ _ hs => hs), hp⟩

theorem OK.pin (ok : s.OK n created) (h' : s.pin h = .ok s') : s'.OK n created := by
  obtain ⟨hc, rfl⟩ := pin_eq h'
  refine ok.repin fun v hv => ?_
  rcases List.mem_cons.1 hv with rfl | hv
  · exact hc
  · exact ok.anchored v hv

theorem OK.unpin (ok : s.OK n created) (h : Handle) : (s.unpin h).OK n created :=
  ok.repin fun v hv => ok.anchored v (List.mem_of_mem_erase hv)

/-! ## Runs -/

/-- What holds before a call and after it succeeds holds however it ends. -/
theorem orKeep_ok {r : Except StoreError Store} {P : Store → Prop} (hs : P s)
    (hr : ∀ t, r = .ok t → P t) : P (s.orKeep r) := by
  cases r with
  | error e => exact hs
  | ok t => exact hr t rfl

/-- **One change keeps the invariant.** -/
theorem edit_ok (ok : s.OK n created) (hn : n < UInt32.size - 1) (e : Edit) :
    (s.edit e).OK (n + if e.isCall then 1 else 0) (created ++ (s.edgeOf? e).toList) := by
  cases e with
  | createNode a init =>
    simp only [edgeOf?, Option.toList_none, List.append_nil, Edit.isCall, if_true, edit]
    cases hc : s.createNode a init with
    | error err => exact ok.mono (Nat.le_succ n)
    | ok p => exact ok.createNode hn hc
  | createEdge a source target directed init =>
    simp only [edgeOf?, Edit.isCall, if_true, edit]
    cases hc : s.createEdge a source target directed init with
    | error err =>
      show OK _ (created ++ []) s
      rw [List.append_nil]
      exact ok.mono (Nat.le_succ n)
    | ok p => exact ok.createEdge hn hc
  | deleteNode h =>
    simp only [edgeOf?, Option.toList_none, List.append_nil, Edit.isCall, if_true]
    exact orKeep_ok (ok.mono (Nat.le_succ n)) fun t ht => (ok.deleteNode hn ht).mono (Nat.le_succ n)
  | deleteEdge h =>
    simp only [edgeOf?, Option.toList_none, List.append_nil, Edit.isCall, if_true]
    exact orKeep_ok (ok.mono (Nat.le_succ n)) fun t ht => (ok.deleteEdge hn ht).mono (Nat.le_succ n)
  | delete h =>
    simp only [edgeOf?, Option.toList_none, List.append_nil, Edit.isCall, if_true]
    exact orKeep_ok (ok.mono (Nat.le_succ n)) fun t ht => (ok.delete hn ht).mono (Nat.le_succ n)
  | setFields h f =>
    simp only [edgeOf?, Option.toList_none, List.append_nil, Edit.isCall]
    exact ok.setFields h f

/-- **One operation keeps the invariant.** -/
theorem perform_ok (ok : s.OK n created) (hn : n < UInt32.size - 1) (op : Operation) :
    (s.perform op).OK (n + if op.isCall then 1 else 0) (created ++ (s.newEdge? op).toList) := by
  cases op with
  | edit e => exact edit_ok ok hn e
  | pin h =>
    simp only [newEdge?, Option.toList_none, List.append_nil, Operation.isCall, if_true]
    exact orKeep_ok (ok.mono (Nat.le_succ n)) fun t ht => (ok.pin ht).mono (Nat.le_succ n)
  | unpin h =>
    simp only [newEdge?, Option.toList_none, List.append_nil, Operation.isCall, if_true]
    exact (ok.unpin h).mono (Nat.le_succ n)

/-- **A run keeps the invariant** while fewer than `2^32 - 1` calls are made. -/
theorem run_ok (ops : List Operation) :
    ∀ {s : Store} {n : Nat} {created : List Handle}, s.OK n created →
      n + calls ops < UInt32.size - 1 →
        (s.run ops).OK (n + calls ops) (created ++ s.createdEdges ops) := by
  induction ops with
  | nil =>
    intro s n created ok _
    simpa [run, createdEdges, calls] using ok
  | cons op ops ih =>
    intro s n created ok hn
    -- the bound is on all calls, so each one finds generations left
    rw [calls_cons] at hn ⊢
    have := ih (perform_ok ok (by omega) op) (by omega)
    rw [List.append_assoc, Nat.add_assoc] at this
    exact this

/-- A store holds no more instances than calls were made. -/
theorem length_le_calls (ops : List Operation) (hops : calls ops < 2 ^ 32 - 1) :
    (empty.run ops).allNodes.length ≤ calls ops ∧ (empty.run ops).allEdges.length ≤ calls ops := by
  have ok := (run_ok ops empty_ok (n := 0) (by rw [Nat.zero_add]; exact hops)).slots
  rw [Nat.zero_add] at ok
  exact ⟨(List.length_filterMap_le _ _).trans (by simpa using ok.nodes_young.size_le),
    (List.length_filterMap_le _ _).trans (by simpa using ok.edges_young.size_le)⟩

/-! ## Pins -/

theorem removeEdge_pins (s : Store) (h : Handle) : (s.removeEdge h).pins = s.pins := by
  unfold removeEdge
  cases s.edge? h with
  | none => rfl
  | some e =>
    show ((s.detach h e.source).detach h e.target).pins = s.pins
    rw [detach_pins, detach_pins]

theorem removeEdges_pins (es : List Handle) :
    ∀ s : Store, (es.foldl removeEdge s).pins = s.pins := by
  induction es with
  | nil => exact fun s => rfl
  | cons e es ih => exact fun s => (ih _).trans (removeEdge_pins s e)

theorem deleteEdge_pins (h' : s.deleteEdge h = .ok s') : s'.pins = s.pins := by
  obtain ⟨-, -, rfl⟩ := deleteEdge_eq h'
  exact removeEdge_pins s h

theorem deleteNode_pins (h' : s.deleteNode h = .ok s') : s'.pins = s.pins := by
  obtain ⟨x, -, -, -, rfl⟩ := deleteNode_eq h'
  exact removeEdges_pins x.edges s

theorem delete_pins (h' : s.delete h = .ok s') : s'.pins = s.pins := by
  unfold Store.delete at h'
  split at h'
  · exact deleteEdge_pins h'
  · exact deleteNode_pins h'

/-- **A change of the graph** sets no pin and takes none off. -/
theorem edit_pins (s : Store) (e : Edit) : (s.edit e).pins = s.pins := by
  -- what is refused changes nothing
  have kept : ∀ {r : Except StoreError Store}, (∀ t, r = .ok t → t.pins = s.pins) →
      (s.orKeep r).pins = s.pins := by
    intro r hr
    cases r with
    | error err => rfl
    | ok t => exact hr t rfl
  cases e with
  | createNode a init =>
    simp only [edit]
    cases hc : s.createNode a init with
    | error err => rfl
    | ok p =>
      obtain ⟨-, fields, -, hs, -⟩ := createNode_eq hc
      show p.1.pins = s.pins
      rw [hs]
  | createEdge a source target directed init =>
    simp only [edit]
    cases hc : s.createEdge a source target directed init with
    | error err => rfl
    | ok p =>
      obtain ⟨-, fields, -, -, -, -, -, hpins, -⟩ := createEdge_eq hc
      exact hpins
  | deleteNode h => exact kept fun t ht => deleteNode_pins ht
  | deleteEdge h => exact kept fun t ht => deleteEdge_pins ht
  | delete h => exact kept fun t ht => delete_pins ht
  | setFields h f =>
    simp only [edit, Store.setFields]
    split <;> rfl

end Store

end GraphWalk
