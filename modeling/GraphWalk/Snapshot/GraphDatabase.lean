import GraphWalk.Snapshot.Basic

/-!
# Snapshots in a graph database

Every operation opens a session, sends queries and closes the session. What the
database answers is given as a list of replies, used one for each query; a query
without a reply succeeds with no records.
-/

namespace GraphWalk

namespace GraphDatabase

/-- How a query is run: by itself, or in a transaction that reads or writes. -/
inductive Mode where
  | auto
  | read
  | write
deriving Repr, DecidableEq, Inhabited

def Mode.text : Mode → String
  | .auto => "auto"
  | .read => "read"
  | .write => "write"

/-- A record of a result, by column. -/
abbrev Record := List (String × Json)

/-- The outcome of a query: an error when it is run, or records, after which
there may be an error. Consuming the result can fail by itself. -/
structure Reply where
  records : List Record
  error : Option String
  nextError : Option String
  consumeError : Option String
deriving Inhabited

/-- What the database sees. -/
inductive Call where
  | openSession (database : String)
  | query (mode : Mode) (text : String) (params : Option Json)
  | closeSession
  | closeDriver
deriving Inhabited

/-- A conversation so far. -/
structure Dialogue where
  replies : List Reply
  calls : List Call
deriving Inhabited

def Dialogue.start (replies : List Reply) (database : String) : Dialogue :=
  ⟨replies, [.openSession database]⟩

/-- Sends a query and takes its reply. -/
def Dialogue.send (d : Dialogue) (mode : Mode) (text : String) (params : Option Json) :
    Dialogue × Reply :=
  let calls := d.calls ++ [.query mode text params]
  match d.replies with
  | [] => (⟨[], calls⟩, ⟨[], none, none, none⟩)
  | r :: rest => (⟨rest, calls⟩, r)

def Dialogue.finish (d : Dialogue) : List Call := d.calls ++ [.closeSession]

/-- A text column; anything else counts as empty. -/
def textOf (r : Record) (key : String) : String :=
  match lookupKey key r with
  | some (.str s) => s
  | _ => ""

/-- A whole number column; anything else counts as zero. -/
def numberOf (r : Record) (key : String) : Int :=
  match lookupKey key r with
  | some (.num s) => match s.toInt? with
    | some n => if -9223372036854775808 ≤ n ∧ n ≤ 9223372036854775807 then n else 0
    | none => 0
  | _ => 0

def flagOf (r : Record) (key : String) : Bool :=
  match lookupKey key r with
  | some (.bool b) => b
  | _ => false

/-- A time column; a text that is no time counts as no time. -/
def timeOf (r : Record) (key : String) : Instant := (Instant.parse? (textOf r key)).getD .zero

def indexQueries : List String :=
  ["CREATE INDEX snapshot_id IF NOT EXISTS FOR (s:Snapshot) ON (s.id)",
    "CREATE INDEX graph_node_handle IF NOT EXISTS FOR (n:GraphNode) ON (n.snapshot, n.handle)"]

/-- Runs the index queries, up to the first that fails. -/
def createIndexes : List String → Dialogue → Dialogue × Except Fault Unit
  | [], d => (d, .ok ())
  | q :: rest, d =>
    let (d', reply) := d.send .auto q none
    match reply.error, reply.consumeError with
    | some e, _ | none, some e => (d', .error (.within "creating index" (.text e)))
    | none, none => createIndexes rest d'

/-- Makes sure that the indexes exist. -/
def ensureIndexes (database : String) (replies : List Reply) : Except Fault Unit × List Call :=
  let (d, result) := createIndexes indexQueries (.start replies database)
  (result, d.finish)

def nodeParams (s : Snapshot) : Json :=
  .arr (s.nodes.mapIdx fun i n =>
    .obj [("seq", .ofNat i), ("handle", .str n.handle), ("arch", .str n.arch),
      ("fields", .str n.fields)])

def edgeParams (s : Snapshot) : Json :=
  .arr (s.edges.mapIdx fun i e =>
    .obj [("seq", .ofNat i), ("handle", .str e.handle), ("arch", .str e.arch),
      ("source", .str e.source), ("target", .str e.target), ("directed", .bool e.directed),
      ("fields", .str e.fields)])

/-- The queries that store a snapshot, each with what it does. -/
def saveQueries (s : Snapshot) : List (String × String × Json) :=
  [("creating snapshot",
      "CREATE (s:Snapshot \x7bid: $id, name: $name, created: $created\x7d)",
      .obj [("id", .str s.id), ("name", .str s.name), ("created", .str s.created.shortText)]),
    ("creating nodes",
      "UNWIND $nodes AS n CREATE (:GraphNode \x7bsnapshot: $id, seq: n.seq, handle: n.handle, arch: n.arch, fields: n.fields\x7d)",
      .obj [("id", .str s.id), ("nodes", nodeParams s)]),
    ("creating edges",
      "UNWIND $edges AS e MATCH (a:GraphNode \x7bsnapshot: $id, handle: e.source\x7d) MATCH (b:GraphNode \x7bsnapshot: $id, handle: e.target\x7d) CREATE (a)-[:EDGE \x7bsnapshot: $id, seq: e.seq, handle: e.handle, arch: e.arch, directed: e.directed, fields: e.fields\x7d]->(b)",
      .obj [("id", .str s.id), ("edges", edgeParams s)])]

/-- Runs writing queries, up to the first that fails. -/
def writeAll : List (String × String × Json) → Dialogue → Dialogue × Except Fault Unit
  | [], d => (d, .ok ())
  | (what, q, params) :: rest, d =>
    let (d', reply) := d.send .write q (some params)
    match reply.error with
    | some e => (d', .error (.within what (.text e)))
    | none => writeAll rest d'

/-- Stores a snapshot in one transaction. -/
def save (database : String) (replies : List Reply) (s : Snapshot) :
    Except Fault Unit × List Call :=
  let (d, result) := writeAll (saveQueries s) (.start replies database)
  (result, d.finish)

/-- Runs a reading query to its last record. -/
def readAll (d : Dialogue) (q : String) (params : Option Json) :
    Dialogue × Except Fault (List Record) :=
  let (d', reply) := d.send .read q params
  match reply.error, reply.nextError with
  | some e, _ | none, some e => (d', .error (.text e))
  | none, none => (d', .ok reply.records)

def nodeOf (r : Record) : NodeCopy := ⟨textOf r "handle", textOf r "arch", textOf r "fields"⟩

def edgeOf (r : Record) : EdgeCopy :=
  ⟨textOf r "handle", textOf r "arch", textOf r "source", textOf r "target", flagOf r "directed",
    textOf r "fields"⟩

/-- Reads the contents of the snapshot that the first query found. -/
def loadContents (d : Dialogue) (id : String) (head : Record) :
    Dialogue × Except Fault Snapshot :=
  let params := some (Json.obj [("id", .str id)])
  match readAll d "MATCH (n:GraphNode \x7bsnapshot: $id\x7d) RETURN n.handle AS handle, n.arch AS arch, n.fields AS fields ORDER BY n.seq" params with
  | (d₁, .error f) => (d₁, .error f)
  | (d₁, .ok nodes) =>
    match readAll d₁ "MATCH (a:GraphNode)-[e:EDGE \x7bsnapshot: $id\x7d]->(b:GraphNode) RETURN e.handle AS handle, e.arch AS arch, a.handle AS source, b.handle AS target, e.directed AS directed, e.fields AS fields ORDER BY e.seq" params with
    | (d₂, .error f) => (d₂, .error f)
    | (d₂, .ok edges) =>
      (d₂, .ok ⟨id, textOf head "name", timeOf head "created", nodes.map nodeOf,
        edges.map edgeOf⟩)

/-- Reads a snapshot. -/
def load (database : String) (replies : List Reply) (id : String) :
    Except Fault Snapshot × List Call :=
  let (d, reply) := (Dialogue.start replies database).send .read
    "MATCH (s:Snapshot \x7bid: $id\x7d) RETURN s.name AS name, s.created AS created"
    (some (.obj [("id", .str id)]))
  match reply.error, reply.records with
  | some e, _ => (.error (.text e), d.finish)
  | none, [] => (.error (.snapshotNotFound id), d.finish)
  | none, head :: _ =>
    let (d', result) := loadContents d id head
    (result, d'.finish)

def infoOf (r : Record) : SnapshotInfo :=
  ⟨textOf r "id", textOf r "name", timeOf r "created", numberOf r "nodes", numberOf r "edges"⟩

/-- Lists the stored snapshots, newest first as the database sorts them. -/
def list (database : String) (replies : List Reply) :
    Except Fault (List SnapshotInfo) × List Call :=
  let (d, result) := readAll (.start replies database)
    "MATCH (s:Snapshot) OPTIONAL MATCH (n:GraphNode \x7bsnapshot: s.id\x7d) WITH s, count(n) AS nodes OPTIONAL MATCH ()-[e:EDGE \x7bsnapshot: s.id\x7d]->() RETURN s.id AS id, s.name AS name, s.created AS created, nodes, count(e) AS edges ORDER BY created DESC, id"
    none
  (result.map (·.map infoOf), d.finish)

def close : List Call := [.closeDriver]

end GraphDatabase

end GraphWalk
