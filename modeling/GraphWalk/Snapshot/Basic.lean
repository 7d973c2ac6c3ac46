import GraphWalk.Registry.Basic
import GraphWalk.Store.Basic
import GraphWalk.Time
import GraphWalk.Value.Text

/-!
# Snapshots

A snapshot lists the nodes and edges of a store with their fields as JSON text.
Restoring it creates them again, under new handles; if that fails, the nodes that
were created are removed again.
-/

namespace GraphWalk

structure NodeCopy where
  /-- The handle the node had. -/
  handle : String
  arch : String
  fields : String
deriving Repr, DecidableEq, Inhabited

structure EdgeCopy where
  handle : String
  arch : String
  source : String
  target : String
  directed : Bool
  fields : String
deriving Repr, DecidableEq, Inhabited

structure Snapshot where
  id : String
  name : String
  created : Instant
  nodes : List NodeCopy
  edges : List EdgeCopy
deriving Repr, DecidableEq, Inhabited

/-- A snapshot without its contents. -/
structure SnapshotInfo where
  id : String
  name : String
  created : Instant
  nodes : Int
  edges : Int
deriving Repr, DecidableEq, Inhabited

def Snapshot.info (s : Snapshot) : SnapshotInfo :=
  ⟨s.id, s.name, s.created, s.nodes.length, s.edges.length⟩

namespace Snapshot

/-- The type of the field set of an architype. -/
def fieldsType (a : Architype) : Ty := .ofAttrs (a.effectiveFields.map fun f => (f.name, f.type))

/-- Writes the fields of an instance. -/
def encodeFields (a : Architype) (f : Fields) : Except WriteError String :=
  (Value.toJsonFor (fieldsType a) f.object).map Json.render

/-- Reads fields; no text and `null` give no values. -/
def decodeFields (a : Architype) (text : String) : Except ReadError (List (String × Value)) :=
  if text = "" then .ok []
  else match fieldsType a with
    | .object attrs => (Value.decodeObjectText attrs text).map fun
      | .object kvs => kvs
      | _ => []
    | _ => .ok []

def captureNode (n : Node) : Except Fault NodeCopy :=
  match encodeFields n.arch n.fields with
  | .ok text => .ok ⟨n.id.text, n.arch.name, text⟩
  | .error e => .error (.within ("node " ++ n.id.text) (.text e.message))

def captureEdge (e : Edge) : Except Fault EdgeCopy :=
  match encodeFields e.arch e.fields with
  | .ok text => .ok ⟨e.id.text, e.arch.name, e.source.text, e.target.text, e.directed, text⟩
  | .error err => .error (.within ("edge " ++ e.id.text) (.text err.message))

/-- Copies all live nodes and edges of a store. -/
def capture (s : Store) (id name : String) (created : Instant) : Except Fault Snapshot := do
  let nodes ← s.allNodes.mapM captureNode
  let edges ← s.allEdges.mapM captureEdge
  return ⟨id, name, created, nodes, edges⟩

/-- The handles created so far, by the handles in the snapshot. -/
abbrev HandleMap := List (String × Handle)

/-- Why a snapshot is not restored: something is wrong with it, or reading it broke
off altogether. -/
inductive Stop where
  | fault (f : Fault)
  | brokenOff (message : String)

/-- What stops the restoring of a part whose fields cannot be read. -/
def Stop.ofRead (part : String) (e : ReadError) : Stop :=
  if e.isFatal then .brokenOff e.message else .fault (.within part (.text e.message))

/-- Creates the nodes of a snapshot. -/
def restoreNodes (r : Registry) :
    List NodeCopy → Store → HandleMap → Store × HandleMap × Option Stop
  | [], s, m => (s, m, none)
  | n :: rest, s, m =>
    let part := "node " ++ n.handle
    let fault := fun (f : Fault) => (s, m, some (Stop.fault (.within part f)))
    match r.lookup ⟨.node, n.arch⟩ with
    | .error e => fault (.registry e)
    | .ok a => match decodeFields a n.fields with
      | .error e => (s, m, some (.ofRead part e))
      | .ok init => match s.createNode a init with
        | .error e => fault (.store e)
        | .ok (s', node) => restoreNodes r rest s' (insertKey n.handle node.id m)

/-- Creates the edges of a snapshot. -/
def restoreEdges (r : Registry) :
    List EdgeCopy → Store → HandleMap → Store × HandleMap × Option Stop
  | [], s, m => (s, m, none)
  | e :: rest, s, m =>
    let part := "edge " ++ e.handle
    let fault := fun (f : Fault) => (s, m, some (Stop.fault (.within part f)))
    match r.lookup ⟨.edge, e.arch⟩ with
    | .error err => fault (.registry err)
    | .ok a => match lookupKey e.source m, lookupKey e.target m with
      | none, _ => fault (.unknownEndpoint e.source)
      | some _, none => fault (.unknownEndpoint e.target)
      | some src, some dst => match decodeFields a e.fields with
        | .error err => (s, m, some (.ofRead part err))
        | .ok init => match s.createEdge a src dst e.directed init with
          | .error err => fault (.store err)
          | .ok (s', edge) => restoreEdges r rest s' (insertKey e.handle edge.id m)

/-- Removes the nodes that were created; their edges go with them. -/
def rollback (s : Store) (m : HandleMap) : Store :=
  m.foldl (fun s (_, h) => if h.isNode then (s.deleteNode h).toOption.getD s else s) s

/-- How restoring ends. What has been created is removed again after a fault, but
stays where reading broke off. -/
inductive Restored where
  | done (handles : HandleMap) (record : LogRecord)
  | failed (f : Fault) (record : LogRecord)
  | brokenOff (message : String)

/-- Creates the contents of a snapshot in a store. -/
def restore (snap : Snapshot) (r : Registry) (s : Store) : Store × Restored :=
  let stopped := fun (s : Store) (m : HandleMap) (stop : Stop) =>
    match stop with
    | .brokenOff message => (s, Restored.brokenOff message)
    | .fault f => (rollback s m, .failed f
        ⟨.warn, "Snapshot restore failed, created instances removed.",
          [("snapshot", .text snap.id), ("error", .text f.message)]⟩)
  match restoreNodes r snap.nodes s [] with
  | (s₁, m₁, some stop) => stopped s₁ m₁ stop
  | (s₁, m₁, none) => match restoreEdges r snap.edges s₁ m₁ with
    | (s₂, m₂, some stop) => stopped s₂ m₂ stop
    | (s₂, m₂, none) =>
      (s₂, .done m₂ ⟨.info, "Snapshot restored.", [("snapshot", .text snap.id),
        ("nodes", .count snap.nodes.length), ("edges", .count snap.edges.length)]⟩)

end Snapshot

end GraphWalk
