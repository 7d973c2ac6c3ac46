import GraphWalk.Text.Grapheme

/-!
# Tokens and their positions

The pieces a module file is read as. Comments and blanks leave no token, except
that a comment to the end of a line leaves the line break.

Lines and columns count from one; a column is what a reader sees as one
character. The offset counts characters from the start of the text and orders
positions.
-/

/-! ## Positions -/

namespace GraphWalk.Source

structure Position where
  line : Nat
  column : Nat
  offset : Nat
deriving Repr, DecidableEq, Inhabited

/-- The start of a text. -/
def Position.start : Position := ⟨1, 1, 0⟩

/-- The position behind one cluster. -/
def Position.afterCluster (p : Position) (cluster : List Char) : Position :=
  if cluster = ['\n'] ∨ cluster = ['\r', '\n'] then ⟨p.line + 1, 1, p.offset + cluster.length⟩
  else ⟨p.line, p.column + 1, p.offset + cluster.length⟩

/-- The position behind a piece of text. -/
def Position.after (p : Position) (cs : List Char) : Position :=
  (Text.clusters cs).foldl .afterCluster p

/-- A piece of a source text. -/
structure Span where
  first : Position
  last : Position
deriving Repr, DecidableEq, Inhabited

namespace Span

/-- The line on which a span starts. -/
def line (s : Span) : Nat := s.first.line

/-- From the start of one span to the end of another. -/
def through (a b : Span) : Span := ⟨a.first, b.last⟩

/-- The span as it is shown in messages: on one line, the line and both columns. -/
def text (file : String) (s : Span) : String :=
  let first := file ++ ":" ++ toString s.first.line ++ "," ++ toString s.first.column ++ "-"
  if s.first.line = s.last.line then first ++ toString s.last.column
  else first ++ toString s.last.line ++ "," ++ toString s.last.column

end Span

end GraphWalk.Source

/-! ## Tokens -/

namespace GraphWalk.Source

inductive Mark where
  | braceOpen | braceClose | bracketOpen | bracketClose | parenOpen | parenClose
  | star | slash | plus | minus | percent
  | assign | equal | notEqual | less | lessEqual | greater | greaterEqual
  | both | either | bang
  | dot | comma | ellipsis | arrow | question | colon | doubleColon
deriving Repr, DecidableEq, Inhabited

/-- The spellings of the marks, longer ones before their beginnings. -/
def Mark.spellings : List (List Char × Mark) :=
  [("...".toList, .ellipsis), ("==".toList, .equal), ("=>".toList, .arrow),
    ("!=".toList, .notEqual), (">=".toList, .greaterEqual), ("<=".toList, .lessEqual),
    ("&&".toList, .both), ("||".toList, .either), ("::".toList, .doubleColon),
    (['\x7b'], .braceOpen), (['\x7d'], .braceClose), (['['], .bracketOpen), ([']'], .bracketClose),
    (['('], .parenOpen), ([')'], .parenClose), (['*'], .star), (['/'], .slash), (['+'], .plus),
    (['-'], .minus), (['%'], .percent), (['='], .assign), (['<'], .less), (['>'], .greater),
    (['!'], .bang), (['.'], .dot), ([','], .comma), (['?'], .question), ([':'], .colon)]

/-- What a token is. Literal pieces of a text are already decoded. -/
inductive Lexeme where
  | mark (m : Mark)
  | name (s : String)
  | number (s : String)
  /-- The quote that opens a text. -/
  | quoteOpen
  | quoteClose
  /-- The head of a text over several lines; with `flush` its common indentation
  is dropped. -/
  | linesOpen (flush : Bool)
  | linesClose
  /-- A literal piece of a text. -/
  | piece (s : String)
  /-- The start of an interpolation; with `trim` blanks before it are dropped. -/
  | interpolation (trim : Bool)
  /-- The start of a directive. -/
  | directive (trim : Bool)
  /-- The end of an interpolation or directive; with `trim` blanks behind it are
  dropped. -/
  | sequenceEnd (trim : Bool)
  | newline
deriving Repr, DecidableEq, Inhabited

structure Token where
  lexeme : Lexeme
  span : Span
deriving Repr, DecidableEq, Inhabited

end GraphWalk.Source
