import GraphWalk.Files.Entry
import GraphWalk.Json.Parse
import GraphWalk.Snapshot.Archive
import GraphWalk.Text.Split
import GraphWalk.Web.Url

/-!
# Archives in files

An archive is kept as the text of a file. An empty file becomes an empty archive, if it
may be changed, and a file with any other text that was not written from an archive is
none.

The place of an archive is the path of a file, with parameters behind a question mark.
Behind `file:` it is an address: its path may be escaped, and its parameters say whether
the file may be made or changed, or that nothing is kept at all. Other parameters set up
the connection, and are only checked.
-/

/-! ## Places -/

namespace GraphWalk

/-- What may be done to the file of an archive. -/
inductive ArchiveAccess where
  | create
  | change
  | read
deriving Repr, DecidableEq, Inhabited

inductive ArchivePlace where
  /-- Kept in memory only, and forgotten when it is left. -/
  | passing
  | file (path : String) (access : ArchiveAccess)
deriving Repr, DecidableEq, Inhabited

/-- Why a text names no place. -/
inductive PlaceFault where
  /-- A host or the value of a parameter is not known. -/
  | unknown
  /-- More access is asked for than was before. -/
  | notAllowed
  | escape (bytes : List UInt8)
  | semicolon
  | twoFileSystems (names : List String)
  /-- A parameter of the connection has no such value. -/
  | setting (name value : String)
deriving Repr, DecidableEq

def PlaceFault.message : PlaceFault → String
  | .unknown => "SQL logic error: out of memory (1)"
  | .notAllowed => "access permission denied: out of memory (3)"
  | .escape bytes => (UrlFault.invalidEscape bytes).message
  | .semicolon => "invalid semicolon separator in query"
  | .twoFileSystems names =>
    "conflicting vfs query parameters: [" ++ " ".intercalate names ++ "]"
  | .setting name value => "unknown " ++ name ++ " " ++ Text.quote value

namespace ArchivePlace

/-! ## Parameters of the connection -/

/-- The pairs of a query. A semicolon anywhere is refused, and then the first escape
that is none. -/
def settings (query : List Char) : Except PlaceFault (List (String × String)) := do
  let parts := (Text.splitWhere (· = '&') query).filter (!·.isEmpty)
  if parts.any (·.contains ';') then throw .semicolon
  parts.mapM fun cs => do
    let (k, v) := Url.cutAt '=' cs
    return (← unescaped k, ← unescaped (v.getD []))
where
  unescaped (cs : List Char) : Except PlaceFault String :=
    (Url.unescape .query cs).mapError fun
      | .invalidEscape bytes => .escape bytes
      | _ => .unknown

/-- The file system that pairs ask for, if any. All must ask for the same. -/
def fileSystem (pairs : List (String × String)) : Except PlaceFault String :=
  let names := (pairs.filter (·.1 = "vfs")).map (·.2)
  match names.filter (· ≠ "") with
  | [] => .ok ""
  | first :: rest =>
    if rest.all (· = first) && names.getLast? = some first then .ok first
    else .error (.twoFileSystems names)

/-- The ways in which moments can be written. -/
def timeFormats : List String := ["sqlite", "datetime"]

/-- The ways in which a change can begin. -/
def lockModes : List String := ["deferred", "immediate", "exclusive"]

/-- Refuses values that a connection does not know. Behind a way to write moments
nothing more is looked at. -/
def checkSettings (pairs : List (String × String)) : Except PlaceFault Unit :=
  let value := fun (name : String) => ((pairs.find? (·.1 = name)).map (·.2)).getD ""
  let format := value "_time_format"
  let lock := value "_txlock"
  if format ≠ "" then
    if timeFormats.contains format then .ok () else .error (.setting "_time_format" format)
  else if lock = "" || lockModes.contains lock.toLower then .ok ()
  else .error (.setting "_txlock" lock)

/-! ## Addresses -/

/-- Replaces escapes. What follows an escaped end does not count. -/
def unescape : Nat → List Char → List UInt8
  | 0, _ => []
  | _, [] => []
  | fuel + 1, '%' :: rest => match Url.escapeAt? rest with
    | some (b, rest) => if b = 0 then [] else b :: unescape fuel rest
    | none => 0x25 :: unescape fuel rest
  | fuel + 1, c :: rest => Text.bytes [c] ++ unescape fuel rest

def plain (cs : List Char) : String := Text.ofBytes (unescape (cs.length + 1) cs)

/-- The parameters of an address; those without a name do not count. -/
def parameters (query : List Char) : List (String × String) :=
  ((Text.splitWhere (· = '&') query).map fun cs =>
    let (k, v) := Url.cutAt '=' cs
    (plain k, plain (v.getD []))).filter (·.1 ≠ "")

/-- An address behind `file:` without its host, which is only admitted if it is this
one. -/
def behindHost (cs : List Char) : Except PlaceFault (List Char) :=
  match cs with
  | '/' :: '/' :: rest =>
    let host := rest.takeWhile (· ≠ '/')
    if host.isEmpty || host = "localhost".toList then .ok (rest.drop host.length)
    else .error .unknown
  | cs => .ok cs

/-- How an archive is opened; each way has a number, and asking for another way may not
raise it. -/
inductive Mode where
  | read
  | change
  | create
  | memory
deriving Repr, DecidableEq, Inhabited

def Mode.rank : Mode → Nat
  | .read => 1
  | .change => 2
  | .create => 6
  | .memory => 128

def mode? : String → Option Mode
  | "ro" => some .read
  | "rw" => some .change
  | "rwc" => some .create
  | "memory" => some .memory
  | _ => none

/-- The kinds of file access that can be asked for by name. -/
def fileSystems : List String := ["", "unix", "unix-none", "unix-dotfile", "unix-excl"]

/-- The file access that keeps everything in memory. -/
def memorySystem : String := "memdb"

/-- What a parameter of an address makes of the mode and the file system. -/
def apply (opened : Mode × String) (parameter : String × String) :
    Except PlaceFault (Mode × String) :=
  let (mode, system) := opened
  match parameter with
  | ("mode", name) => match mode? name with
    | none => .error .unknown
    | some asked =>
      if asked ≠ .memory && mode.rank < asked.rank then .error .notAllowed
      else .ok (asked, system)
  | ("cache", name) =>
    if name = "shared" || name = "private" then .ok opened else .error .unknown
  | ("vfs", name) => .ok (mode, name)
  | _ => .ok opened

/-- The place of a path. -/
def ofPath (path : String) (mode : Mode) (system : String) : Except PlaceFault ArchivePlace :=
  if system ≠ memorySystem && !fileSystems.contains system then .error .unknown
  else if path = "" || path = ":memory:" || system = memorySystem then .ok .passing
  else match mode with
    | .memory => .ok .passing
    | .create => .ok (.file path .create)
    | .change => .ok (.file path .change)
    | .read => .ok (.file path .read)

/-- The place of an address behind `file:`. -/
def ofAddress (cs : List Char) (system : String) : Except PlaceFault ArchivePlace := do
  let cs ← behindHost cs
  let (path, query) := Url.cutAt '?' (Url.cutAt '#' cs).1
  let (mode, system) ← (parameters (query.getD [])).foldlM apply (.create, system)
  ofPath (plain path) mode system

/-- Reads a place. A question mark in front of everything starts no parameters. -/
def parse (text : String) : Except PlaceFault ArchivePlace := do
  let cs := text.toList
  let query := match cs with
    | '?' :: _ => []
    | cs => (Url.cutAt '?' cs).2.getD []
  let pairs ← settings query
  let system ← fileSystem pairs
  let place ← match cs with
    | 'f' :: 'i' :: 'l' :: 'e' :: ':' :: rest => ofAddress rest system
    | c :: rest => ofPath (String.ofList (c :: rest.takeWhile (· ≠ '?'))) .create system
    | [] => ofPath "" .create system
  return place

/-- Whether the connection to a place can be set up. -/
def checkConnection (text : String) : Except PlaceFault Unit := do
  let query := match text.toList with
    | '?' :: _ => []
    | cs => (Url.cutAt '?' cs).2.getD []
  checkSettings (← settings query)

end ArchivePlace

end GraphWalk

/-! ## Files -/

namespace GraphWalk

namespace SnapshotRow

def toJson (r : SnapshotRow) : Json :=
  .obj [("id", .str r.id), ("name", .str r.name), ("created_at", .str r.createdAt)]

end SnapshotRow

namespace NodeRow

def toJson (r : NodeRow) : Json :=
  .obj [("snapshot_id", .str r.snapshotId), ("seq", .ofNat r.seq), ("handle", .str r.handle),
    ("arch", .str r.arch), ("fields", .str r.fields)]

end NodeRow

namespace EdgeRow

def toJson (r : EdgeRow) : Json :=
  .obj [("snapshot_id", .str r.snapshotId), ("seq", .ofNat r.seq), ("handle", .str r.handle),
    ("arch", .str r.arch), ("source", .str r.source), ("target", .str r.target),
    ("directed", .num (toString r.directed)), ("fields", .str r.fields)]

end EdgeRow

namespace Archive

/-- The text of a file that keeps an archive. -/
def text (a : Archive) : String :=
  (Json.obj [("snapshots", .arr (a.snapshots.map (·.toJson))),
    ("snapshot_nodes", .arr (a.nodes.map (·.toJson))),
    ("snapshot_edges", .arr (a.edges.map (·.toJson)))]).render

/-- A text member of a document. -/
def textMember? (j : Json) (key : String) : Option String :=
  match j.get? key with
  | some (.str s) => some s
  | _ => none

/-- A member of a document that is a whole number. -/
def numberMember? (j : Json) (key : String) : Option Int :=
  match j.get? key with
  | some (.num literal) => literal.toInt?
  | _ => none

/-- A list member of a document. -/
def listMember? (j : Json) (key : String) : Option (List Json) :=
  match j.get? key with
  | some (.arr items) => some items
  | _ => none

def snapshotOfJson? (j : Json) : Option SnapshotRow := do
  return ⟨← textMember? j "id", ← textMember? j "name", ← textMember? j "created_at"⟩

def nodeOfJson? (j : Json) : Option NodeRow := do
  return ⟨← textMember? j "snapshot_id", (← numberMember? j "seq").toNat,
    ← textMember? j "handle", ← textMember? j "arch", ← textMember? j "fields"⟩

def edgeOfJson? (j : Json) : Option EdgeRow := do
  return ⟨← textMember? j "snapshot_id", (← numberMember? j "seq").toNat,
    ← textMember? j "handle", ← textMember? j "arch", ← textMember? j "source",
    ← textMember? j "target", ← numberMember? j "directed", ← textMember? j "fields"⟩

/-- Reads back what `text` wrote. -/
def ofText? (s : String) : Option Archive := do
  let j ← Json.parse? s
  return ⟨← (← listMember? j "snapshots").mapM snapshotOfJson?,
    ← (← listMember? j "snapshot_nodes").mapM nodeOfJson?,
    ← (← listMember? j "snapshot_edges").mapM edgeOfJson?⟩

/-- Why there is no archive at a place. -/
inductive OpenFault where
  | notOpened
  | readOnly
deriving Repr, DecidableEq

/-- The archive at a place in a tree, and the tree with a file there. The file is made
if that is admitted and its directory is there. -/
def openIn (root : Entry) : ArchivePlace → Except OpenFault (Entry × Archive)
  | .passing => .ok (root, empty)
  | .file path access => match root.resolve path with
    | .ok (.file "") =>
      if access = .read then .error .readOnly
      else .ok (root.insert path (.file empty.text), empty)
    | .ok (.file text) => match ofText? text with
      | some a => .ok (root, a)
      | none => .error .notOpened
    | .ok (.directory _) => .error .notOpened
    | .error .notDirectory => .error .notOpened
    | .error .missing => match root.resolve (Files.parent path) with
      | .ok (.directory _) =>
        if access = .create then .ok (root.insert path (.file empty.text), empty)
        else .error .notOpened
      | _ => .error .notOpened

/-- The tree with a new state of the archive at a place; none if it may not be
changed. -/
def keepIn (a : Archive) (root : Entry) : ArchivePlace → Option Entry
  | .passing => some root
  | .file _ .read => none
  | .file path _ => some (root.insert path (.file a.text))

end Archive

end GraphWalk
