import GraphWalk.Snapshot.Basic

/-!
# Archives

An archive keeps snapshots in three tables: a row for each snapshot, and a row for each
of its nodes and edges, with the id of the snapshot and the position in it. Saving is one
transaction: its rows go in one by one, and after the first that is refused the tables are
as they were. The list of an archive has the newest snapshot first; times are kept as text
that sorts like time does.
-/

namespace GraphWalk

/-- A row of the table of snapshots, under its id. -/
structure SnapshotRow where
  id : String
  name : String
  createdAt : String
deriving Repr, DecidableEq, Inhabited

/-- A row of the table of nodes, under the id of its snapshot and its handle. -/
structure NodeRow where
  snapshotId : String
  /-- The position in the snapshot. -/
  seq : Nat
  handle : String
  arch : String
  fields : String
deriving Repr, DecidableEq, Inhabited

/-- A row of the table of edges, under the id of its snapshot and its handle. -/
structure EdgeRow where
  snapshotId : String
  /-- The position in the snapshot. -/
  seq : Nat
  handle : String
  arch : String
  source : String
  target : String
  /-- One for a directed edge. -/
  directed : Int
  fields : String
deriving Repr, DecidableEq, Inhabited

namespace SnapshotRow

def ofSnapshot (s : Snapshot) : SnapshotRow := ⟨s.id, s.name, s.created.fixedText⟩

/-- Newer rows first, then by id. -/
def newerFirst (r s : SnapshotRow) : Bool :=
  s.createdAt < r.createdAt || (r.createdAt = s.createdAt && !(s.id < r.id))

end SnapshotRow

namespace NodeRow

def key (r : NodeRow) : String × String := (r.snapshotId, r.handle)

/-- The row of the node at a position of a snapshot. -/
def ofCopy (id : String) (seq : Nat) (n : NodeCopy) : NodeRow :=
  ⟨id, seq, n.handle, n.arch, n.fields⟩

def copy (r : NodeRow) : NodeCopy := ⟨r.handle, r.arch, r.fields⟩

end NodeRow

namespace EdgeRow

def key (r : EdgeRow) : String × String := (r.snapshotId, r.handle)

/-- The row of the edge at a position of a snapshot. -/
def ofCopy (id : String) (seq : Nat) (e : EdgeCopy) : EdgeRow :=
  ⟨id, seq, e.handle, e.arch, e.source, e.target, if e.directed then 1 else 0, e.fields⟩

def copy (r : EdgeRow) : EdgeCopy :=
  ⟨r.handle, r.arch, r.source, r.target, r.directed = 1, r.fields⟩

end EdgeRow

/-- The tables of an archive. -/
structure Archive where
  snapshots : List SnapshotRow
  nodes : List NodeRow
  edges : List EdgeRow
deriving Repr, DecidableEq, Inhabited

namespace Archive

def empty : Archive := ⟨[], [], []⟩

/-- The note of the database about a key that is there already. -/
def conflictNote : String := "<sqlite>"

/-- The note of the database about a file that may not be changed. -/
def readOnlyNote : String := "attempt to write a readonly database (8)"

/-- What is being saved when a row is refused. -/
inductive SaveError where
  | snapshot
  | node (handle : String)
  | edge (handle : String)
deriving Repr, DecidableEq

def SaveError.message : SaveError → String
  | .snapshot => "inserting snapshot: " ++ conflictNote
  | .node h => "inserting node " ++ h ++ ": " ++ conflictNote
  | .edge h => "inserting edge " ++ h ++ ": " ++ conflictNote

/-- Whether there is a snapshot that rows may refer to. -/
def holds (a : Archive) (id : String) : Bool := a.snapshots.any (·.id = id)

section Rows

variable {α κ : Type} [DecidableEq κ]

/-- Puts a row into a table. It is refused if it refers to nothing, or if its key is
taken. -/
def insertRow (refers : α → Bool) (key : α → κ) (table : List α) (row : α) :
    Option (List α) :=
  if !refers row || table.any (key · = key row) then none else some (table ++ [row])

/-- Puts rows into a table one by one, up to the first that is refused. -/
def insertRows (refers : α → Bool) (key : α → κ) (table : List α) :
    List α → List α × Option α
  | [] => (table, none)
  | row :: rows => match insertRow refers key table row with
    | none => (table, some row)
    | some table => insertRows refers key table rows

end Rows

/-- The rows of the nodes of a snapshot. -/
def nodeRows (s : Snapshot) : List NodeRow := s.nodes.mapIdx (NodeRow.ofCopy s.id)

/-- The rows of the edges of a snapshot. -/
def edgeRows (s : Snapshot) : List EdgeRow := s.edges.mapIdx (EdgeRow.ofCopy s.id)

/-- Puts the rows of a snapshot into the tables, up to the first that is refused. -/
def write (s : Snapshot) (a : Archive) : Archive × Option SaveError :=
  match insertRow (fun _ => true) SnapshotRow.id a.snapshots (.ofSnapshot s) with
  | none => (a, some .snapshot)
  | some snapshots =>
    let a := { a with snapshots }
    match insertRows (a.holds ·.snapshotId) NodeRow.key a.nodes (nodeRows s) with
    | (nodes, some row) => ({ a with nodes }, some (.node row.handle))
    | (nodes, none) =>
      let a := { a with nodes }
      match insertRows (a.holds ·.snapshotId) EdgeRow.key a.edges (edgeRows s) with
      | (edges, some row) => ({ a with edges }, some (.edge row.handle))
      | (edges, none) => ({ a with edges }, none)

/-- Changes an archive in one transaction: an error leaves it as it was. -/
def transact (a : Archive) (change : Archive → Archive × Option SaveError) :
    Archive × Option SaveError :=
  match change a with
  | (_, some e) => (a, some e)
  | (changed, none) => (changed, none)

/-- Saves a snapshot as a whole: the archive from then on, and what was refused. -/
def put (a : Archive) (s : Snapshot) : Archive × Option SaveError := a.transact (write s)

/-- The archive with a snapshot saved in it. -/
def save (a : Archive) (s : Snapshot) : Except SaveError Archive :=
  match a.put s with
  | (_, some e) => .error e
  | (saved, none) => .ok saved

/-- The rows of a snapshot in a table, by their positions. -/
def rowsOf {α : Type} (snapshotId : α → String) (seq : α → Nat) (table : List α) (id : String) :
    List α :=
  (table.filter (snapshotId · = id)).mergeSort (seq · ≤ seq ·)

/-- Reads a snapshot back. -/
def load (a : Archive) (id : String) : Except Fault Snapshot :=
  match a.snapshots.find? (·.id = id) with
  | none => .error (.snapshotNotFound id)
  | some row => match Instant.parseFixed row.createdAt with
    | .error m => .error (.within "parsing created_at" (.text m))
    | .ok t => .ok ⟨id, row.name, t,
        (rowsOf NodeRow.snapshotId NodeRow.seq a.nodes id).map (·.copy),
        (rowsOf EdgeRow.snapshotId EdgeRow.seq a.edges id).map (·.copy)⟩

/-- What is told about a row. A time that cannot be read is zero. -/
def infoOf (a : Archive) (row : SnapshotRow) : SnapshotInfo :=
  ⟨row.id, row.name, (Instant.parseFixed row.createdAt).toOption.getD .zero,
    a.nodes.countP (·.snapshotId = row.id), a.edges.countP (·.snapshotId = row.id)⟩

/-- All snapshots without their contents. -/
def list (a : Archive) : List SnapshotInfo :=
  (a.snapshots.mergeSort SnapshotRow.newerFirst).map a.infoOf

end Archive

end GraphWalk
