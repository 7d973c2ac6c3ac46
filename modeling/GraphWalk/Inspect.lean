import GraphWalk.Store.Basic
import GraphWalk.Text.Split
import GraphWalk.Value.Text
import GraphWalk.Web.RequestLine
import GraphWalk.World.Basic

/-!
# Inspection

A read-only JSON view of a world: its architypes, nodes and walkers, asked for by
path and query.
-/

namespace GraphWalk

structure WebAnswer where
  status : Nat
  contentType : String
  body : String
deriving Repr, DecidableEq, Inhabited

namespace Inspect

def plain (status : Nat) (message : String) : WebAnswer :=
  ⟨status, "text/plain; charset=utf-8", message ++ "\n"⟩

def document (j : Json) : WebAnswer := ⟨200, "application/json", j.render ++ "\n"⟩

def notFound : WebAnswer := plain 404 "404 page not found"

def wrongMethod : WebAnswer := ⟨405, "", ""⟩

def texts (ss : List String) : Json := .arr (ss.map .str)

/-- A member that is left out if its list is empty. -/
def unlessEmpty {α : Type} (key : String) (f : List α → Json) : List α → List (String × Json)
  | [] => []
  | xs => [(key, f xs)]

/-- The JSON form of a value by its own type. -/
def valueJson (v : Value) : Except WriteError Json :=
  if v.isNull then .ok .null else v.toJsonFor v.type

def fieldsJson : List (String × Value) → Except WriteError (List (String × Json))
  | [] => .ok []
  | (k, v) :: rest => do
    let j ← valueJson v
    let js ← fieldsJson rest
    return (k, j) :: js

def fieldView (f : FieldDef) : Json :=
  let default := match f.default with
    | some v => if v.isWhollyKnown then
        (match v.toJsonFor v.type with
          | .ok j => [("default", j)]
          | .error _ => [])
      else []
    | none => []
  .obj (([("name", .str f.name), ("type", .str f.type.friendlyName)] : List (String × Json))
    ++ default)

def abilityView (a : Ability) : Json :=
  .obj (([("name", .str a.name), ("owner", .str a.owner.name),
      ("event", .str a.signature.event.text)] : List (String × Json))
    ++ unlessEmpty "filter" texts a.signature.filter
    ++ (if a.isAbstract then [("abstract", .bool true)] else [] : List (String × Json))
    ++ ([("bound", .bool a.isBound)] : List (String × Json))
    ++ (if a.defModule = "" then [] else [("module", .str a.defModule)] : List (String × Json)))

def architypeView (a : Architype) : Json :=
  .obj (([("kind", .str a.kind.text), ("name", .str a.name),
      ("module", .str a.module)] : List (String × Json))
    ++ unlessEmpty "bases" texts a.baseNames
    ++ (if a.kind = .edge then [("directed", .bool a.directed)] else [] : List (String × Json))
    ++ unlessEmpty "fields" (fun fs => .arr (fs.map fieldView)) a.effectiveFields
    ++ unlessEmpty "abilities" (fun as => .arr (as.map abilityView)) a.effectiveAbilities)

def nodeView (n : Node) : Except WriteError Json := do
  let fields ← fieldsJson n.fields.toEntries
  return .obj ([("handle", .str n.id.text), ("arch", .str n.arch.name), ("fields", .obj fields)]
    ++ unlessEmpty "edges" (fun es => texts (es.map Handle.text)) n.edges)

def hopView (e : Edge) (n : Node) : Json :=
  .obj [("edge", .str e.id.text), ("edge_arch", .str e.arch.name), ("node", .str n.id.text),
    ("node_arch", .str n.arch.name)]

/-- A reported value, or the reason it cannot be shown. -/
def reportView (v : Value) : Json :=
  match v.toJsonFor v.type with
  | .ok j => j
  | .error e => .str e.message

def walkerView (w : Walker) : Json :=
  let fields := (fieldsJson w.fields.toEntries).toOption.getD []
  .obj (([("id", .str w.id), ("arch", .str w.arch.name), ("state", .str w.state.text),
      ("position", .str w.position.text)] : List (String × Json))
    ++ unlessEmpty "queue" (fun hs => texts (hs.map Handle.text)) w.queue
    ++ ([("steps", .ofNat w.steps)] : List (String × Json))
    ++ unlessEmpty "fields" .obj fields
    ++ unlessEmpty "reports" (fun vs => .arr (vs.map reportView)) w.reports
    ++ unlessEmpty "errors" (fun fs => texts (fs.map Fault.message)) w.faults)

def health (w : World) : WebAnswer :=
  let (nodes, edges) := w.engine.store.size
  document (.obj [("edges", .ofNat edges), ("modules", .ofNat w.modules.length),
    ("nodes", .ofNat nodes), ("status", .str "ok"),
    ("walkers", .ofNat w.engine.walkers.length)])

/-- Architypes by kind, then by name. -/
def archOrder (a b : Architype) : Bool :=
  a.kind.text < b.kind.text || (a.kind.text = b.kind.text && !(b.name < a.name))

def listArchitypes (w : World) (kind : String) : WebAnswer :=
  let listed := fun (as : List Architype) =>
    document (.obj [("architypes", .arr ((as.mergeSort archOrder).map architypeView)),
      ("count", .ofNat as.length)])
  if kind = "" then listed w.engine.registry.archs
  else match Kind.parse? kind with
    | none => plain 400 (Kind.unknownMessage kind)
    | some k => listed (w.engine.registry.archs.filter (·.kind = k))

def getArchitype (w : World) (kind name : String) : WebAnswer :=
  match Kind.parse? kind with
  | none => plain 400 (Kind.unknownMessage kind)
  | some k => match w.engine.registry.lookup ⟨k, name⟩ with
    | .ok a => document (architypeView a)
    | .error e => plain 404 e.message

def listNodes (w : World) (arch : String) : WebAnswer :=
  let nodes := w.engine.store.allNodes.filter fun n => arch = "" || n.arch.isA arch
  match nodes.mapM nodeView with
  | .ok views => document (.obj [("count", .ofNat views.length), ("nodes", .arr views)])
  | .error e => plain 500 e.message

/-- The node a path names, or what to answer instead. -/
def findNode (w : World) (raw : String) : Except WebAnswer Node :=
  match Handle.parse raw with
  | .error e => .error (plain 400 e.message)
  | .ok h =>
    if !h.isNode then .error (plain 400 ("handle " ++ h.text ++ " is not a node"))
    else match w.engine.store.node h with
      | .ok n => .ok n
      | .error e => .error (plain 404 e.message)

def getNode (w : World) (raw : String) : WebAnswer :=
  match findNode w raw with
  | .error answer => answer
  | .ok n => match nodeView n with
    | .ok j => document j
    | .error e => plain 500 e.message

/-- The names of a list with commas; empty ones are left out. -/
def splitList (s : String) : List String :=
  ((Text.splitWhere (· = ',') s.toList).map fun cs => Text.trim (String.ofList cs)).filter (· ≠ "")

def getNeighbors (w : World) (raw : String) (u : Url) : WebAnswer :=
  match findNode w raw with
  | .error answer => answer
  | .ok n => match Direction.parse? (u.queryValue "direction") with
    | none => plain 400 "invalid direction parameter (use out, in or any)"
    | some dir =>
      let filter : HopFilter :=
        ⟨splitList (u.queryValue "edge"), splitList (u.queryValue "node"), dir⟩
      let hops := (w.engine.store.neighbors n.id filter).map fun (e, other) => hopView e other
      document (.obj [("count", .ofNat hops.length), ("direction", .str dir.text),
        ("neighbors", .arr hops), ("node", .str n.id.text)])

def listWalkers (w : World) (state : String) : WebAnswer :=
  let views := (w.engine.walkers.filter fun k => state = "" || k.state.text = state).map walkerView
  document (.obj [("count", .ofNat views.length), ("walkers", .arr views)])

def getWalker (w : World) (id : String) : WebAnswer :=
  match w.engine.walkers.find? (·.id = id) with
  | some k => document (walkerView k)
  | none => plain 404 ("walker " ++ id ++ " not found")

/-- The known views. -/
inductive Route where
  | health
  | architypes
  | architype (kind name : String)
  | nodes
  | node (handle : String)
  | neighbors (handle : String)
  | walkers
  | walker (id : String)
deriving Repr, DecidableEq

/-- The view a path stands for. -/
def route? (path : String) : Option Route :=
  match (Text.splitWhere (· = '/') path.toList).map String.ofList with
  | ["", "health"] => some .health
  | ["", "architypes"] | ["", "architypes", ""] => some .architypes
  | ["", "architypes", kind, name] => if name = "" then none else some (.architype kind name)
  | ["", "nodes"] | ["", "nodes", ""] => some .nodes
  | ["", "nodes", h] => some (.node h)
  | ["", "nodes", h, "neighbors"] => some (.neighbors h)
  | ["", "walkers"] | ["", "walkers", ""] => some .walkers
  | ["", "walkers", id] => some (.walker id)
  | _ => none

def answerRoute (w : World) (u : Url) : Route → WebAnswer
  | .health => health w
  | .architypes => listArchitypes w (u.queryValue "kind")
  | .architype kind name => getArchitype w kind name
  | .nodes => listNodes w (u.queryValue "arch")
  | .node h => getNode w h
  | .neighbors h => getNeighbors w h u
  | .walkers => listWalkers w (u.queryValue "state")
  | .walker id => getWalker w id

def knownMethods : List String :=
  ["CONNECT", "DELETE", "GET", "HEAD", "OPTIONS", "PATCH", "POST", "PUT", "TRACE"]

/-- Answers a request. Only `GET` is served. -/
def respond (w : World) (r : RequestLine) : WebAnswer :=
  let u := r.target
  if !knownMethods.contains r.method then wrongMethod
  else match route? (if u.rawPath ≠ "" then u.rawPath else if u.path = "" then "/" else u.path) with
    | none => notFound
    | some route => if r.method = "GET" then answerRoute w u route else wrongMethod

/-- Answers the request that a method and a target make up. -/
def ask (w : World) (method target : String) : Except RequestFault WebAnswer :=
  (RequestLine.read (method ++ " " ++ target ++ " HTTP/1.0\r\n")).map (respond w)

end Inspect

end GraphWalk
