import GraphWalk.Value.Basic

/-!
# Expressions

Expressions of module files: constants, references, calls, operators,
conditionals, texts with interpolations, constructors and loops. A node keeps the
line it starts on, which is what a message about it shows.
-/

namespace GraphWalk

inductive UnaryOp where
  | negate
  | not
deriving Repr, DecidableEq, Inhabited

inductive BinaryOp where
  | or | and
  | equal | notEqual
  | less | lessEqual | greater | greaterEqual
  | add | sub
  | mul | div | rem
deriving Repr, DecidableEq, Inhabited

/-- A step into a value, with a constant key. -/
inductive Step where
  | attr (name : String) (line : Nat)
  | index (key : Value) (line : Nat)
deriving Repr, Inhabited

/-- The line on which a step stands. -/
def Step.line : Step → Nat
  | .attr _ line | .index _ line => line

/-- Expressions. -/
inductive Expr where
  | literal (value : Value) (line : Nat)
  /-- A name of the scope, and steps into its value. -/
  | reference (name : String) (steps : List Step) (line : Nat)
  /-- Steps into the value of any other expression. -/
  | access (source : Expr) (steps : List Step)
  /-- Indexing by a computed key; `line` is that of the bracket. -/
  | index (collection key : Expr) (line : Nat)
  /-- Applies `each` to every element of `source`; `line` is that of the star. -/
  | splat (source each : Expr) (line : Nat)
  /-- The element that the innermost splat stands at. -/
  | element (line : Nat)
  /-- A call; with `spread` the last argument holds the remaining ones. -/
  | call (function : String) (args : List Expr) (spread : Bool) (line closeLine : Nat)
  | conditional (condition yes no : Expr)
  | unary (op : UnaryOp) (operand : Expr) (line : Nat)
  | binary (op : BinaryOp) (left right : Expr)
  /-- A text put together from parts. -/
  | template (parts : List Expr) (line : Nat)
  /-- A text that is one interpolation: it has the value of that, of any type. -/
  | interpolated (inner : Expr) (line : Nat)
  /-- The texts of a loop, one after the other. -/
  | joined (loop : Expr)
  | tuple (items : List Expr) (line : Nat)
  | object (items : List (Expr × Expr)) (line : Nat)
  /-- A tuple with an item for each element of `source` that the condition holds
  for. -/
  | tupleLoop (keyName : Option String) (valueName : String) (source value condition : Expr)
      (line : Nat)
  /-- An object with an attribute for each such element; with `grouped` equal keys
  collect their values. -/
  | objectLoop (keyName : Option String) (valueName : String)
      (source key value condition : Expr) (grouped : Bool) (line : Nat)
  | parens (inner : Expr) (line : Nat)
deriving Repr, Inhabited

namespace Expr

/-- The line on which an expression starts. -/
def line : Expr → Nat
  | .literal _ l | .reference _ _ l | .element l | .call _ _ _ l _ | .unary _ _ l
  | .template _ l | .interpolated _ l | .tuple _ l | .object _ l
  | .tupleLoop _ _ _ _ _ l | .objectLoop _ _ _ _ _ _ _ l | .parens _ l => l
  | .access e _ | .index e _ _ | .splat e _ _ | .conditional e _ _ | .binary _ e _
  | .joined e => e.line

/-- The line that stands for an expression as an argument: for a text that of its
first part, for indexing that of the bracket, for parentheses that of what they
hold. -/
def headLine : Expr → Nat
  | .index _ _ l | .splat _ _ l => l
  | .conditional e _ _ | .binary _ e _ | .parens e _ => e.headLine
  | .template (part :: _) _ => part.headLine
  | e => e.line

/-- The name an expression spells when it is read as a word. -/
def word? : Expr → Option String
  | .reference name [] _ => some name
  | .literal (.null _) _ => some "null"
  | .literal (.bool true) _ => some "true"
  | .literal (.bool false) _ => some "false"
  | _ => none

/-- The text of a constant text. -/
def constantText? : Expr → Option String
  | .template [.literal (.string s) _] _ => some s
  | _ => none

/-- Adds a step. Steps on a reference or on steps extend them. -/
def extend (e : Expr) (s : Step) : Expr :=
  match e with
  | .reference name steps l => .reference name (steps ++ [s]) l
  | .access source steps => .access source (steps ++ [s])
  | e => .access e [s]

end Expr

end GraphWalk
