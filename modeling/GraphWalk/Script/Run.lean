import GraphWalk.Expr.Eval
import GraphWalk.Script.Statement

/-!
# Running scripts

A script runs its statements in order. Every statement sees the state that the
ones before it left: the scope is asked for again each time (`Script.scope`).
-/

namespace GraphWalk

structure Script where
  /-- The file it was read from. -/
  file : String
  /-- The ability it belongs to. -/
  origin : String
  statements : List Statement
deriving Repr, Inhabited

namespace Script

/-- The variables of a script. -/
def scope (o : Occasion) : Program Scope := do
  let here ← Program.fields .here
  let visitor ← Program.fields .visitor
  let self ← Program.fields .self
  let globals ← Program.globals
  let kind := if o.position.isEdge then "edge" else "node"
  return .ofNames
    [("here", here.object), ("visitor", visitor.object), ("self", self.object),
      ("global", .ofAttrs globals), ("args", o.args), ("event", .text o.event.text),
      ("ability", .text o.path.text),
      ("position", .ofAttrs
        [("id", .text o.position.text), ("arch", .text o.here.name), ("kind", .text kind)])]

/-- The value of an expression, which must be wholly known. -/
def value (file : String) (s : Scope) (e : Expr) : Except Fault Value :=
  let o := e.eval s
  match o.issue with
  | some i => .error (.text (i.message file))
  | none => if o.value.isWhollyKnown then .ok o.value else .error (.text "value is not known")

/-- Brings a value to a type. -/
def asType (v : Value) (ty : Ty) (wanted : String) : Except Fault Value :=
  (v.convert ty).mapError fun e => .within ("expected " ++ wanted) (.text e.message)

/-- A truth value; a null, or no expression at all, stands for the fallback. -/
def truth (file : String) (s : Scope) (e : Option Expr) (fallback : Bool) : Except Fault Bool :=
  match e with
  | none => .ok fallback
  | some e => do
    let v ← value file s e
    if v.isNull then return fallback
    return (← asType v .bool "bool").isTrue

/-- A text; a null stands for the empty one. -/
def text (file : String) (s : Scope) (e : Expr) : Except Fault String := do
  let v ← value file s e
  if v.isNull then return ""
  match ← asType v .string "string" with
  | .string t => return t
  | _ => return ""

/-- The texts of a list; a null among them has none. -/
def texts? (v : Value) : Option (List String) :=
  (Function.itemsOfValue v).mapM fun
    | .string s => some s
    | _ => none

/-- The names of a single text or a list of texts. A null in the list breaks the
script. -/
def names (file : String) (s : Scope) (e : Option Expr) : Program (List String) :=
  match e with
  | none => .done []
  | some e => do
    let v ← Program.ofExcept (value file s e)
    if v.isNull then return []
    match v with
    | .string t => return [t]
    | v =>
      let list ← Program.ofExcept (asType v (.list .string) "a string or a list of strings")
      match texts? list with
      | some ts => return ts
      | none => .crash "value is null"

/-- The entries of an object or a map. -/
def entries (file : String) (s : Scope) (e : Option Expr) :
    Except Fault (List (String × Value)) :=
  match e with
  | none => .ok []
  | some e => do
    let v ← value file s e
    match v with
    | .null _ => return []
    | .object kvs | .map _ kvs => return kvs
    | v => throw (.text ("expected an object, got " ++ v.type.friendlyName))

/-- The filter of a statement; without a direction it looks outwards. -/
def filter (file : String) (s : Scope) (sel : Selection) : Program HopFilter := do
  let edge ← (names file s sel.edge).within "edge"
  let node ← (names file s sel.node).within "node"
  match sel.direction with
  | none => return ⟨edge, node, .out⟩
  | some e =>
    let raw ← (Program.ofExcept (text file s e)).within "direction"
    match Direction.parse? raw with
    | some d => return ⟨edge, node, d⟩
    | none => .fail (.within "direction" (.text ("unknown value " ++ Text.quote raw)))

/-- Deletes targets in order, each once, up to the first that cannot be. -/
def deleteAll (seen : List Handle) : List Handle → Program Unit
  | [] => .done ()
  | h :: rest =>
    if seen.contains h then deleteAll seen rest
    else do
      Program.delete h
      deleteAll (h :: seen) rest

/-- Runs what a statement does; the answer says whether the script goes on. -/
def perform (file : String) (o : Occasion) (s : Scope) : Deed → Program Bool
  | .set target field e => do
    let v ← Program.ofExcept (value file s e)
    Program.setField target field v
    return true
  | .setGlobal name e => do
    let v ← Program.ofExcept (value file s e)
    Program.setGlobal name v
    return true
  | .report e => do
    let v ← Program.ofExcept (value file s e)
    Program.report v
    return true
  | .log e => do
    let m ← Program.ofExcept (text file s e)
    Program.log
      ⟨.info, m, [("ability", .text o.path.text), ("position", .text o.position.text)]⟩
    return true
  | .visit sel first viaEdges => do
    let f ← filter file s sel
    let first ← (Program.ofExcept (truth file s first false)).within "first"
    let viaEdges ← (Program.ofExcept (truth file s viaEdges false)).within "via_edges"
    let hops ← Program.hops f
    Program.visit first (hops.map fun h => if viaEdges then h.edge else h.node)
    return true
  | .ignore sel => do
    let f ← filter file s sel
    let hops ← Program.hops f
    Program.ignore (hops.map Hop.node)
    return true
  | .connect node edge fields edgeFields visit => do
    let edgeArch ← (Program.ofExcept (text file s edge)).within "edge"
    let fields ← (Program.ofExcept (entries file s fields)).within "fields"
    let edgeFields ← (Program.ofExcept (entries file s edgeFields)).within "edge_fields"
    let visit ← (Program.ofExcept (truth file s visit false)).within "visit"
    let h ← Program.createNode node fields
    let _ ← Program.connect edgeArch o.position h edgeFields
    if visit then Program.visit false [h]
    return true
  | .delete sel edges => do
    let f ← filter file s sel
    let edges ← (Program.ofExcept (truth file s edges false)).within "edges"
    let hops ← Program.hops f
    deleteAll [] (hops.map fun h => if edges then h.edge else h.node)
    return true
  | .disengage => do
    Program.disengage
    return false
  | .fail none => .fail (.gaveUp none)
  | .fail (some e) => do
    let m ← Program.ofExcept (text file s e)
    .fail (.gaveUp (some m))

/-- Runs statements in order. Faults name the statement they come from. -/
def runAll (file : String) (o : Occasion) : List Statement → Program Unit
  | [] => .done ()
  | st :: rest => do
    let s ← scope o
    let pos := st.span.text file
    if ← (Program.ofExcept (truth file s st.guard true)).within (pos ++ ": when") then
      if ← (perform file o s st.deed).within pos then runAll file o rest
    else runAll file o rest

/-- The body of a script. -/
def body (sc : Script) : Body :=
  ⟨.script sc.origin sc.statements.length, fun o => runAll sc.file o sc.statements⟩

end Script

end GraphWalk
