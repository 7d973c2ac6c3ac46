import GraphWalk.Expr.Eval
import GraphWalk.Source.Document

/-!
# Checked documents

A schema says which arguments and blocks a document may have. `Document.check`
finds the first departure from it; the readers for arguments then evaluate
constants and bring them to the type they need.
-/

namespace GraphWalk.Source

structure Schema where
  /-- Arguments that must be given, sorted by name. -/
  required : List String := []
  optional : List String := []
  /-- Block types with the names of their labels. -/
  blocks : List (String × List String) := []
  /-- Whether anything else may stand beside these. -/
  isOpen : Bool := false
deriving Repr

/-- The labels a block must have. -/
def labelIssue (b : Block) (names : List String) : Option Issue :=
  match b.labels[names.length]? with
  | some extra => some ⟨extra.span.line, .extraLabel b.type⟩
  | none => match names[b.labels.length]? with
    | some name => some ⟨b.openLine, .missingLabel name b.type⟩
    | none => none

namespace Document

/-- The first departure of a document from a schema: arguments that are missing,
then wrong labels, then what is not expected. -/
def issue? (d : Document) (s : Schema) : Option Issue :=
  let missing := s.required.findSome? fun n =>
    if (d.argument? n).isNone then some ⟨d.startLine, .missingArgument⟩ else none
  let labels := d.blocks.findSome? fun b => (lookupKey b.type s.blocks).bind (labelIssue b)
  let extraArgument := d.arguments.findSome? fun a =>
    if s.required.contains a.name || s.optional.contains a.name then none
    else some ⟨a.span.line, .unsupportedArgument⟩
  let extraBlock := d.blocks.findSome? fun b =>
    if (lookupKey b.type s.blocks).isSome then none
    else some ⟨b.typeSpan.line, .unsupportedBlock⟩
  missing <|> labels <|> if s.isOpen then none else extraArgument <|> extraBlock

def check (d : Document) (s : Schema) : Except Issue Unit :=
  match d.issue? s with
  | some i => .error i
  | none => .ok ()

/-- A constant argument brought to a type; a null counts as absent. -/
def constant? (d : Document) (name : String) (ty : Ty) : Except Issue (Option Value) :=
  match d.expr? name with
  | none => .ok none
  | some e =>
    let o := e.eval .constant
    match o.issue with
    | some i => .error i
    | none => match o.value.convert ty with
      | .ok v => .ok (if v.isNull then none else some v)
      | .error _ => .error ⟨e.headLine, .unsuitableValue⟩

def text? (d : Document) (name : String) : Except Issue (Option String) := do
  match ← d.constant? name .string with
  | some (.string s) => return some s
  | _ => return none

/-- A text that must not be null. -/
def text (d : Document) (name : String) : Except Issue String := do
  match ← d.text? name with
  | some s => return s
  | none => throw ⟨((d.expr? name).map Expr.headLine).getD d.startLine, .unsuitableValue⟩

def bool? (d : Document) (name : String) : Except Issue (Option Bool) := do
  match ← d.constant? name .bool with
  | some (.bool b) => return some b
  | _ => return none

/-- A list of texts, none of which is null. -/
def texts (d : Document) (name : String) : Except Issue (List String) := do
  match ← d.constant? name (.list .string) with
  | some (.list _ vs) => vs.mapM fun
    | .string s => .ok s
    | _ => .error ⟨((d.expr? name).map Expr.headLine).getD d.startLine, .unsuitableValue⟩
  | _ => return []

end Document

end GraphWalk.Source
