import GraphWalk.Fault
import GraphWalk.Text.Split
import GraphWalk.Value.Type

/-!
# Paths and entries

A path is read as its segments between slashes. Cleaning a path drops empty and
`.` segments and lets `..` cancel the segment before it; what is left is the
shortest spelling of the same way down.

A directory tree as a value: an entry is a file with its text or a directory of
named entries. `Entry.resolve` follows a path from an entry, as a system that knows
only what is there would: through `.` and `..`, and never through a file. The
directories `above` are those that hold the entry, the nearest first; where they are
not given, no path leads out of the entry.

`Entry.find` collects the files with an ending under a list of paths. A path that
is a file counts by its own spelling, a directory with all that lies below it,
except what lies in a directory whose name starts with a dot. Paths that do not
exist are passed over. The result is sorted and without repeats.
-/

namespace GraphWalk.Files

/-- The segments of a path, empty ones included. -/
def segments (path : String) : List String :=
  (Text.splitWhere (· = '/') path.toList).map String.ofList

/-- Whether a path starts at the root of all files. -/
def isRooted (path : String) : Bool := path.toList.head? = some '/'

/-- One more segment behind a clean list, which is kept in reverse. -/
def pushSegment (rooted : Bool) (done : List String) (s : String) : List String :=
  if s = "" || s = "." then done
  else if s = ".." then
    match done with
    | [] => if rooted then [] else [s]
    | d :: rest => if d = ".." then s :: done else rest
  else s :: done

/-- Segments as a path; no segments at all are the place itself. -/
def joinSegments (rooted : Bool) (ss : List String) : String :=
  if rooted then "/" ++ "/".intercalate ss
  else if ss.isEmpty then "." else "/".intercalate ss

/-- The shortest spelling of a path. -/
def clean (path : String) : String :=
  joinSegments (isRooted path)
    ((segments path).foldl (pushSegment (isRooted path)) []).reverse

/-- The clean path of an entry of a directory. -/
def child (directory name : String) : String := clean (directory ++ "/" ++ name)

/-- The directory that holds the last segment of a path. -/
def parent (path : String) : String :=
  joinSegments (isRooted path)
    (((segments path).dropLast).foldl (pushSegment (isRooted path)) []).reverse

end GraphWalk.Files

namespace GraphWalk

inductive Entry where
  | file (text : String)
  | directory (children : List (String × Entry))
deriving Repr, Inhabited

/-- Why a path leads nowhere. -/
inductive PathFault where
  | missing
  | notDirectory
deriving Repr, DecidableEq

def PathFault.message : PathFault → String
  | .missing => "no such file or directory"
  | .notDirectory => "not a directory"

namespace Entry

/-- A directory without entries. -/
def empty : Entry := .directory []

/-- Follows segments down from an entry below the directories `above`. -/
def follow : List Entry → Entry → List String → Except PathFault Entry
  | _, e, [] => .ok e
  | _, .file _, _ :: _ => .error .notDirectory
  | above, .directory children, s :: rest =>
    if s = "" || s = "." then follow above (.directory children) rest
    else if s = ".." then
      match above with
      | [] => .error .missing
      | up :: further => follow further up rest
    else match lookupKey s children with
      | none => .error .missing
      | some e => follow (.directory children :: above) e rest

/-- The entry that a path leads to from `root`. The empty path leads nowhere, and neither
does one that leaves the directories above. -/
def resolve (root : Entry) (path : String) (above : List Entry := []) : Except PathFault Entry :=
  if path = "" || Files.isRooted path then .error .missing
  else follow above root (Files.segments path)

/-- Puts an entry at the place that segments name, with the directories on the way
to it. A directory that is there already stays as it is. -/
def insertAt (e : Entry) : List String → Entry → Entry
  | [], old => match old, e with
    | .directory cs, .directory _ => .directory cs
    | _, _ => e
  | s :: rest, old =>
    if s = "" || s = "." then insertAt e rest old
    else
      let children := match old with
        | .directory cs => cs
        | .file _ => []
      .directory (insertKey s (insertAt e rest ((lookupKey s children).getD empty)) children)

def insert (root : Entry) (path : String) (e : Entry) : Entry :=
  insertAt e (Files.segments (Files.clean path)) root

/-- The tree that holds the given files and directories. -/
def ofFiles (files : List (String × String)) (directories : List String) : Entry :=
  let root := directories.foldl (fun t d => t.insert d empty) empty
  files.foldl (fun t (path, text) => t.insert path (.file text)) root

mutual

/-- All files of an entry at a clean path, with their texts. -/
def texts (place : String) : Entry → List (String × String)
  | .file text => [(place, text)]
  | .directory children => textsBelow place children

/-- All files of the entries of a directory at a path. -/
def textsBelow (place : String) : List (String × Entry) → List (String × String)
  | [] => []
  | (name, e) :: rest => texts (Files.child place name) e ++ textsBelow place rest

end

/-- The files that are new or have another text in a later state of a tree. -/
def changes (before after : Entry) : List (String × String) :=
  (after.texts ".").filter fun (path, text) =>
    match before.resolve path with
    | .ok (.file old) => old ≠ text
    | _ => true

end Entry

end GraphWalk

/-! ## Finding files -/

namespace GraphWalk

/-- Why files could not be looked for. -/
inductive FindError where
  | noExtension
  | inaccessible (path : String) (why : PathFault)
deriving Repr, DecidableEq

def FindError.message : FindError → String
  | .noExtension => "extension must not be empty"
  | .inaccessible path why =>
    "error accessing path " ++ path ++ ": stat " ++ path ++ ": " ++ why.message

namespace Entry

mutual

/-- The files with an ending below an entry that stands at the clean path `place`
under `name`. -/
def filesFrom (extension place name : String) : Entry → List String
  | .file _ => if name.endsWith extension then [place] else []
  | .directory children =>
    if name.startsWith "." then [] else filesBelow extension place children

/-- The files with an ending below the entries of a directory at `place`. -/
def filesBelow (extension place : String) : List (String × Entry) → List String
  | [] => []
  | (name, e) :: rest =>
    filesFrom extension (Files.child place name) name e ++ filesBelow extension place rest

end

/-- The files with an ending that one path leads to. -/
def filesAt (root : Entry) (above : List Entry) (extension path : String) :
    Except PathFault (List String) :=
  match root.resolve path above with
  | .error .missing => .ok []
  | .error why => .error why
  | .ok (.file _) => .ok (if path.endsWith extension then [Files.clean path] else [])
  | .ok (.directory children) => .ok (filesBelow extension path children)

/-- All files that the paths lead to, in the order of the paths. -/
def gather (root : Entry) (above : List Entry) (extension : String) :
    List String → Except FindError (List String)
  | [] => .ok []
  | path :: rest =>
    match root.filesAt above extension path with
    | .error why => .error (.inaccessible path why)
    | .ok found => (gather root above extension rest).map (found ++ ·)

/-- Sorts texts bytewise and drops repeats. -/
def sortedOnce (texts : List String) : List String :=
  (sortKeys (texts.map fun t => (t, ()))).map (·.1)

/-- The files with an ending under the given paths. -/
def find (root : Entry) (paths : List String) (extension : String) (above : List Entry := []) :
    Except FindError (List String) :=
  if extension = "" then .error .noExtension
  else (root.gather above extension paths).map sortedOnce

end Entry

end GraphWalk
