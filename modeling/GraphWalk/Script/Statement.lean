import GraphWalk.Fault
import GraphWalk.Body
import GraphWalk.Source.Document

/-!
# Statements

A script is a list of statements, each written as a block. A statement may have a
guard, and runs only when the guard holds. `Statement.ofBlock` reads a block and
reports all its flaws together.
-/

namespace GraphWalk

open Source

/-- Which neighbours of the position a statement is about. -/
structure Selection where
  edge : Option Expr
  node : Option Expr
  direction : Option Expr
deriving Repr, Inhabited

/-- What a statement does. -/
inductive Deed where
  | set (target : Target) (field : String) (value : Expr)
  | setGlobal (name : String) (value : Expr)
  | report (value : Expr)
  | log (message : Expr)
  | visit (selection : Selection) (first viaEdges : Option Expr)
  | ignore (selection : Selection)
  /-- Creates a node and an edge from the position to it. -/
  | connect (node : String) (edge : Expr) (fields edgeFields visit : Option Expr)
  | delete (selection : Selection) (edges : Option Expr)
  | disengage
  | fail (message : Option Expr)
deriving Repr, Inhabited

structure Statement where
  span : Span
  guard : Option Expr
  deed : Deed
deriving Repr, Inhabited

/-- What a kind of statement takes. -/
structure Shape where
  labels : List String := []
  required : List String := []
  optional : List String := []
deriving Repr

/-- The kinds of statement by block type. -/
def Shape.of? : String → Option Shape
  | "set" => some { labels := ["target", "field"], required := ["value"] }
  | "global" => some { labels := ["name"], required := ["value"] }
  | "report" => some { required := ["value"] }
  | "log" => some { required := ["message"] }
  | "visit" => some { optional := ["first", "via_edges", "edge", "node", "direction"] }
  | "ignore" => some { optional := ["edge", "node", "direction"] }
  | "connect" =>
    some { labels := ["node"], required := ["edge"],
           optional := ["fields", "edge_fields", "visit"] }
  | "delete" => some { optional := ["edges", "edge", "node", "direction"] }
  | "disengage" => some {}
  | "fail" => some { optional := ["message"] }
  | _ => none

/-- What can be wrong with a statement. -/
inductive FlawCause where
  | notAStatement (type : String)
  | wrongLabels (type : String) (names : List String)
  | nestedBlock (type : String)
  | missingArgument (name type : String)
  | unsupportedArgument (name type : String)
  | badTarget (name : String)
deriving Repr, DecidableEq

/-- A flaw and its place. -/
structure Flaw where
  span : Span
  cause : FlawCause
deriving Repr, DecidableEq

def FlawCause.text : FlawCause → String
  | .notAStatement t =>
    "Unsupported statement; Blocks of type " ++ Text.quote t ++ " are not statements."
  | .wrongLabels t names =>
    "Wrong number of labels; A " ++ t ++ " statement takes " ++ toString names.length
      ++ " label(s) " ++ bracketed names ++ "."
  | .nestedBlock t => "Unexpected block; A " ++ t ++ " statement does not take nested blocks."
  | .missingArgument name t =>
    "Missing required argument; The argument " ++ Text.quote name ++ " is required in a " ++ t
      ++ " statement."
  | .unsupportedArgument name t =>
    "Unsupported argument; An argument named " ++ Text.quote name ++ " is not expected in a " ++ t
      ++ " statement."
  | .badTarget name =>
    "Invalid set target; Target " ++ Text.quote name ++ " must be one of here, visitor or self."

/-- All flaws of a script in one line: the first, and how many more there are. -/
def Flaw.message (file : String) : List Flaw → String
  | [] => ""
  | f :: rest =>
    let first := f.span.text file ++ ": " ++ f.cause.text
    if rest.isEmpty then first
    else first ++ ", and " ++ toString rest.length ++ " other diagnostic(s)"

/-- The instance a set statement names. -/
def Target.parse? : String → Option Target
  | "here" => some .here
  | "visitor" => some .visitor
  | "self" => some .self
  | _ => none

namespace Statement

/-- The flaws of a block as a statement of a shape. -/
def flaws (shape : Shape) (b : Block) : List Flaw :=
  let d := b.body
  let labelFlaws :=
    if b.labels.length ≠ shape.labels.length then
      [⟨b.header, .wrongLabels b.type shape.labels⟩] else []
  let blockFlaws := match d.blocks with
    | first :: _ => [⟨first.header, .nestedBlock b.type⟩]
    | [] => []
  let missing := (shape.required.filter fun n => (d.argument? n).isNone).map
    fun n => ⟨b.header, .missingArgument n b.type⟩
  let allowed := "when" :: shape.required ++ shape.optional
  let extra := (d.arguments.filter fun a => !allowed.contains a.name).map
    fun a => ⟨a.span, .unsupportedArgument a.name b.type⟩
  let target := match b.type, b.labels with
    | "set", [t, _] => if (Target.parse? t.text).isSome then [] else [⟨t.span, .badTarget t.text⟩]
    | _, _ => []
  labelFlaws ++ blockFlaws ++ missing ++ extra ++ target

def selection (d : Document) : Selection := ⟨d.expr? "edge", d.expr? "node", d.expr? "direction"⟩

/-- What a block without flaws does. -/
def deedOf? (b : Block) : Option Deed := do
  let d := b.body
  match b.type with
  | "set" => return .set (← Target.parse? (b.label 0)) (b.label 1) (← d.expr? "value")
  | "global" => return .setGlobal (b.label 0) (← d.expr? "value")
  | "report" => return .report (← d.expr? "value")
  | "log" => return .log (← d.expr? "message")
  | "visit" => return .visit (selection d) (d.expr? "first") (d.expr? "via_edges")
  | "ignore" => return .ignore (selection d)
  | "connect" =>
    return .connect (b.label 0) (← d.expr? "edge") (d.expr? "fields") (d.expr? "edge_fields")
      (d.expr? "visit")
  | "delete" => return .delete (selection d) (d.expr? "edges")
  | "disengage" => return .disengage
  | "fail" => return .fail (d.expr? "message")
  | _ => none

/-- Reads a block as a statement. -/
def ofBlock (b : Block) : Except (List Flaw) Statement :=
  match Shape.of? b.type with
  | none => .error [⟨b.header, .notAStatement b.type⟩]
  | some shape =>
    match flaws shape b with
    | [] => match deedOf? b with
      | some deed => .ok ⟨b.header, b.body.expr? "when", deed⟩
      | none => .error [⟨b.header, .notAStatement b.type⟩]
    | fs => .error fs

/-- Reads blocks as statements; the flaws of all of them are reported. -/
def ofBlocks (bs : List Block) : Except (List Flaw) (List Statement) :=
  let results := bs.map ofBlock
  match results.flatMap fun r => match r with
    | .error fs => fs
    | .ok _ => [] with
  | [] => .ok (results.filterMap fun r => r.toOption)
  | fs => .error fs

end Statement

end GraphWalk
