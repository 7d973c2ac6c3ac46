import GraphWalk.Expr.Basic
import GraphWalk.Source.Token

/-!
# Documents

A module file is a document: arguments and blocks, and blocks hold documents
again.
-/

namespace GraphWalk.Source

structure Argument where
  name : String
  span : Span
  expr : Expr
deriving Repr, Inhabited

structure Label where
  text : String
  span : Span
deriving Repr, DecidableEq, Inhabited

/-- A block: its type, its labels, the line of its opening brace, and what its braces
hold. -/
inductive Block where
  | mk (type : String) (typeSpan : Span) (labels : List Label) (openLine bodyLine : Nat)
      (arguments : List Argument) (blocks : List Block)
deriving Repr, Inhabited

/-- What a file or the braces of a block hold. It starts on the line of the opening
brace, or where its only argument does when no line break follows the brace. -/
structure Document where
  startLine : Nat
  arguments : List Argument
  blocks : List Block
deriving Repr, Inhabited

namespace Block

def type : Block → String
  | .mk t _ _ _ _ _ _ => t

def typeSpan : Block → Span
  | .mk _ s _ _ _ _ _ => s

def labels : Block → List Label
  | .mk _ _ ls _ _ _ _ => ls

def openLine : Block → Nat
  | .mk _ _ _ line _ _ _ => line

def body : Block → Document
  | .mk _ _ _ _ line args blocks => ⟨line, args, blocks⟩

/-- The header of a block: its type through its last label. -/
def header (b : Block) : Span :=
  match b.labels.getLast? with
  | some l => b.typeSpan.through l.span
  | none => b.typeSpan

/-- The line on which a block starts. -/
def line (b : Block) : Nat := b.typeSpan.line

/-- Where a block starts. -/
def offset (b : Block) : Nat := b.typeSpan.first.offset

/-- The text of the `i`-th label. -/
def label (b : Block) (i : Nat) : String := (b.labels[i]?.map Label.text).getD ""

end Block

namespace Document

def argument? (d : Document) (name : String) : Option Argument :=
  d.arguments.find? (·.name = name)

def expr? (d : Document) (name : String) : Option Expr := (d.argument? name).map (·.expr)

/-- The blocks of a type, in source order. -/
def blocksOf (d : Document) (type : String) : List Block := d.blocks.filter (·.type = type)

end Document

end GraphWalk.Source
