import GraphWalk.Snapshot.ArchiveFile
import GraphWalk.Web.Url

/-!
# Places to keep snapshots

A backend and the place it is given decide where snapshots go: into an archive
file, or to a graph database at an address. Graph databases are only ever
addressed here; none answers.
-/

namespace GraphWalk

/-- How a graph database is reached. -/
structure DatabaseAddress where
  uri : String
  username : String
  password : String
  database : String
deriving Repr, DecidableEq

namespace DatabaseAddress

/-- The schemes that lead to a graph database. -/
def schemes : List String := ["neo4j", "neo4j+s", "neo4j+ssc", "bolt", "bolt+s", "bolt+ssc"]

/-- A text without one slash at its front. -/
def dropSlash (s : String) : String :=
  match s.toList with
  | '/' :: rest => String.ofList rest
  | _ => s

/-- Reads the address of a graph database. The path names the database. -/
def parse (text : String) : Except Fault DatabaseAddress :=
  match Url.parse text with
  | .error e => .error (.within "parsing neo4j url" (.text e.message))
  | .ok u =>
    if !schemes.contains u.scheme then
      .error (.text ("unsupported neo4j url scheme " ++ Text.quote u.scheme))
    else
      let database := dropSlash u.path
      .ok ⟨u.scheme ++ "://" ++ u.host, (u.user.map (·.name)).getD "",
        (u.user.bind (·.password)).getD "", if database = "" then "neo4j" else database⟩

end DatabaseAddress

/-- The note of the database about a file that it cannot open. -/
def Archive.unopenedNote : String := "<sqlite>"

/-- Opens the archive that a backend and a place in a tree name. -/
def Archive.openBackend (root : Entry) (cancelled : Bool) (backend place : String) :
    Except Fault (Entry × Archive) :=
  if backend = "" || backend = "sqlite" then
    let unconnected := fun (text : String) =>
      Except.error (Fault.within "connecting to sqlite" (.text text))
    if cancelled then .error (.within "connecting to sqlite" .canceled)
    else match ArchivePlace.parse place with
      | .error f => unconnected f.message
      | .ok parsed => match openIn root parsed, ArchivePlace.checkConnection place with
        | .error .notOpened, _ => unconnected unopenedNote
        | _, .error f => unconnected f.message
        | .error .readOnly, _ => .error (.within "creating schema" (.text readOnlyNote))
        | .ok opened, .ok () => .ok opened
  else if backend = "neo4j" then
    match DatabaseAddress.parse place with
    | .error f => .error f
    | .ok _ => .error (.within "connecting to neo4j" (.text "<network>"))
  else .error (.text ("unknown snapshot backend " ++ Text.quote backend))

end GraphWalk
