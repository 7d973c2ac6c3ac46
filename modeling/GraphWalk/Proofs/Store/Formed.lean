import GraphWalk.Proofs.Architype.Fields
import GraphWalk.Proofs.Store.Run

/-!
# What instances are made of

Creation checks the kind of the architype and makes the field set from its fields.
Afterwards the fields are only written to, field by field (`Written`). So the instances of
a store are of architypes of their kinds, and their field sets have come about by writing
to new ones (`Formed`). `Formed.run`: this holds after every run of fewer than `2^32 - 1`
calls.
-/

namespace GraphWalk

namespace Store

variable {s s' : Store} {h : Handle} {created : List Handle} {m : Nat}

/-- If the operation replaces the fields of an instance, then by setting one of them. -/
def Writes (s : Store) : Operation → Prop
  | .edit (.setFields h f) => ∀ inst, s.instance? h = some inst → ∃ k v, inst.fields.set k v = .ok f
  | _ => True

/-- Along the run fields are replaced only by setting one at a time. -/
def Written : Store → List Operation → Prop
  | _, [] => True
  | s, op :: ops => s.Writes op ∧ Written (s.perform op) ops

/-- **Instances are of their kind**, with the fields of their architype. -/
structure Formed (s : Store) : Prop where
  node : ∀ {v n}, s.node? v = some n → n.arch.kind = .node ∧ n.fields.MadeFor n.arch
  edge : ∀ {k e}, s.edge? k = some e → e.arch.kind = .edge ∧ e.fields.MadeFor e.arch

theorem initialFields_eq_ok {a : Architype} {init : List (String × Value)} {f : Fields} :
    initialFields a init = .ok f ↔ Fields.new a.effectiveFields init = .ok f := by
  unfold initialFields
  cases Fields.new a.effectiveFields init <;> simp

/-! ## One operation -/

/-- The kind of a new node has been checked, and its fields are made for it. -/
theorem Formed.createNode (hf : s.Formed) (ok : s.Slots m) (hroom : s.nodes.Roomy) {a : Architype}
    {init : List (String × Value)} {n : Node} (h : s.createNode a init = .ok (s', n)) :
    s'.Formed := by
  obtain ⟨-, ha⟩ := createNode_spec ok hroom h
  obtain ⟨hk, fields, hi, -, hn⟩ := createNode_eq h
  refine ⟨fun {v x} hx => ?_, fun {k e} he => hf.edge (by rwa [edge?_congr ha.edges] at he)⟩
  rw [ha.node?] at hx
  split at hx
  · cases hx
    rw [hn]
    exact ⟨hk, init, initialFields_eq_ok.1 hi⟩
  · exact hf.node hx

/-- So it is with a new edge; the nodes at its ends only list it. -/
theorem Formed.createEdge (hf : s.Formed) (ok : s.Slots m) (hroom : s.edges.Roomy) {a : Architype}
    {source target : Handle} {directed : Bool} {init : List (String × Value)} {e : Edge}
    (h : s.createEdge a source target directed init = .ok (s', e)) : s'.Formed := by
  obtain ⟨-, ha, -⟩ := createEdge_spec ok hroom h
  obtain ⟨hk, fields, hi, -, -, he, -, -, -⟩ := createEdge_eq h
  refine ⟨fun {v x} hx => ?_, fun {k x} hx => ?_⟩
  · rw [ha.node?] at hx
    obtain ⟨y, hy, rfl⟩ := Option.map_eq_some_iff.1 hx
    have := hf.node hy
    split <;> exact this
  · rw [ha.edge?] at hx
    split at hx
    · cases hx
      rw [he]
      exact ⟨hk, init, initialFields_eq_ok.1 hi⟩
    · exact hf.edge hx

/-- Removing edges takes them off lists, and leaves what nodes are made of. -/
theorem Formed.edgesRemoved (hf : s.Formed) {hs : List Handle} (hr : EdgesRemoved s s' hs) :
    s'.Formed := by
  refine ⟨fun {v x} hx => ?_, fun {k x} hx => ?_⟩
  · rw [hr.node?] at hx
    obtain ⟨y, hy, rfl⟩ := Option.map_eq_some_iff.1 hx
    have := hf.node hy
    exact this
  · rw [hr.edge?] at hx
    split at hx
    · cases hx
    · exact hf.edge hx

theorem Formed.nodeRemoved (hf : s.Formed) (hr : NodeRemoved s s' h) : s'.Formed := by
  refine ⟨fun {v x} hx => ?_, fun {k x} hx => hf.edge (by rwa [edge?_congr hr.edges] at hx)⟩
  rw [hr.node?] at hx
  split at hx
  · cases hx
  · exact hf.node hx

theorem Formed.deleteEdge (hf : s.Formed) (ok : s.OK m created) (hm : m < UInt32.size - 1)
    (h' : s.deleteEdge h = .ok s') : s'.Formed := by
  obtain ⟨-, -, rfl⟩ := deleteEdge_eq h'
  exact hf.edgesRemoved (removeEdge_joined hm ok.slots ok.joined h).2.2

theorem Formed.deleteNode (hf : s.Formed) (ok : s.OK m created) (hm : m < UInt32.size - 1)
    (h' : s.deleteNode h = .ok s') : s'.Formed := by
  obtain ⟨-, -, x, t, -, -, -, hr, hr'⟩ := deleteNode_spec hm ok.slots ok.joined h'
  exact (hf.edgesRemoved hr).nodeRemoved hr'

theorem Formed.delete (hf : s.Formed) (ok : s.OK m created) (hm : m < UInt32.size - 1)
    (h' : s.delete h = .ok s') : s'.Formed := by
  unfold Store.delete at h'
  split at h'
  · exact hf.deleteEdge ok hm h'
  · exact hf.deleteNode ok hm h'

/-- Setting a field of an instance writes to its field set. -/
theorem Formed.setFields (hf : s.Formed) {f : Fields} (hw : s.Writes (.edit (.setFields h f))) :
    (s.setFields h f).Formed := by
  unfold Store.setFields
  cases hi : s.instance? h with
  | none => exact hf
  | some inst =>
    obtain ⟨k, v, hset⟩ := hw inst hi
    cases inst with
    | node x =>
      have hx := instance?_eq_node.1 hi
      refine ⟨fun {u y} hy => ?_, fun {k e} he => hf.edge he⟩
      -- only the node under this handle is written to
      rw [node?_update hx] at hy
      obtain ⟨z, hz, rfl⟩ := Option.map_eq_some_iff.1 hy
      split
      · rename_i hu
        rw [hu, hx] at hz
        cases hz
        exact ⟨(hf.node hx).1, (hf.node hx).2.set hset⟩
      · exact hf.node hz
    | edge x =>
      have hx := instance?_eq_edge.1 hi
      refine ⟨fun {u y} hy => hf.node hy, fun {j e} he => ?_⟩
      rw [edge?_update] at he
      obtain ⟨z, hz, rfl⟩ := Option.map_eq_some_iff.1 he
      split
      · -- the edge in the slot is the one that is written to
        rename_i hj
        have hg := (edge?_eq_some.1 hz).2
        rw [hj] at hg
        obtain ⟨rfl, -⟩ := Arena.get?_unique (edge?_eq_some.1 hx).2 hg
        exact ⟨(hf.edge hx).1, (hf.edge hx).2.set hset⟩
      · exact hf.edge hz

/-! ## Runs -/

/-- **One operation** keeps instances formed. -/
theorem Formed.perform (hf : s.Formed) (ok : s.OK m created) (hm : m < UInt32.size - 1)
    {op : Operation} (hw : s.Writes op) : (s.perform op).Formed := by
  cases op with
  | edit e =>
    cases e with
    | createNode a init =>
      show (s.orKeep _).Formed
      cases hc : s.createNode a init with
      | error err => exact hf
      | ok p => exact hf.createNode ok.slots (ok.slots.nodes_young.roomy (by omega)) hc
    | createEdge a source target directed init =>
      show (s.orKeep _).Formed
      cases hc : s.createEdge a source target directed init with
      | error err => exact hf
      | ok p => exact hf.createEdge ok.slots (ok.slots.edges_young.roomy (by omega)) hc
    | deleteNode h => exact orKeep_ok hf fun t ht => hf.deleteNode ok hm ht
    | deleteEdge h => exact orKeep_ok hf fun t ht => hf.deleteEdge ok hm ht
    | delete h => exact orKeep_ok hf fun t ht => hf.delete ok hm ht
    | setFields h f => exact hf.setFields hw
  | pin h =>
    refine orKeep_ok hf fun t ht => ?_
    obtain ⟨-, rfl⟩ := pin_eq ht
    exact ⟨hf.node, hf.edge⟩
  | unpin h => exact ⟨hf.node, hf.edge⟩

/-- **Along a run** of fewer than `2^32 - 1` calls instances stay formed. -/
theorem Formed.run (ops : List Operation) :
    ∀ {s : Store} {m : Nat} {created : List Handle}, s.Formed → s.OK m created →
      m + calls ops < UInt32.size - 1 → s.Written ops → (s.run ops).Formed := by
  induction ops with
  | nil => exact fun hf _ _ _ => hf
  | cons op ops ih =>
    intro s m created hf ok hm hw
    rw [calls_cons] at hm
    exact ih (hf.perform ok (by omega) hw.1) (perform_ok ok (by omega) op) (by omega) hw.2

end Store

end GraphWalk
