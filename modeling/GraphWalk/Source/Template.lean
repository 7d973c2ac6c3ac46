import GraphWalk.Expr.Basic
import GraphWalk.Text.Split
import GraphWalk.Text.Grapheme

/-!
# Texts with interpolations

A text is read as a list of pieces. `flush` drops the common indentation of its
lines, `meld` joins neighbouring literals, and `assemble` builds the nested
conditionals and loops that its directives open and close.
-/

namespace GraphWalk.Source

inductive Piece where
  | literal (s : String) (line : Nat)
  | value (e : Expr)
  | ifOpen (condition : Expr) (line : Nat)
  | otherwise
  | ifClose
  | forOpen (keyName : Option String) (valueName : String) (source : Expr) (line : Nat)
  | forClose
deriving Repr, Inhabited

namespace Piece

/-- Whether the piece behind this one starts a line. -/
def endsLine : Piece → Bool
  | .literal s _ => s.toList.getLast? = some '\n'
  | _ => false

/-- A line without visible characters. -/
def isBlankLine : Piece → Bool
  | .literal s l => (Text.trimLeft s).isEmpty && endsLine (.literal s l)
  | _ => false

/-- The columns of blanks at the front. -/
def indentation : Piece → Nat
  | .literal s _ => Text.columns (s.toList.takeWhile Text.isSpace)
  | _ => 0

/-- Drops columns at the front. -/
def outdent (n : Nat) : Piece → Piece
  | .literal s l => .literal (String.ofList ((Text.clusters s.toList).drop n).flatten) l
  | p => p

/-- The indentations of the lines that are not blank. -/
def indentations (fresh : Bool) : List Piece → List Nat
  | [] => []
  | p :: rest =>
    let more := indentations p.endsLine rest
    if fresh && !p.isBlankLine then p.indentation :: more else more

def outdentLines (n : Nat) (fresh : Bool) : List Piece → List Piece
  | [] => []
  | p :: rest =>
    (if fresh && !p.isBlankLine then p.outdent n else p) :: outdentLines n p.endsLine rest

/-- Drops the indentation that all lines share; blank lines do not count. -/
def flush (ps : List Piece) : List Piece :=
  match (indentations true ps).min? with
  | some n => outdentLines n true ps
  | none => ps

/-- Joins neighbouring literals. -/
def meld : List Piece → List Piece
  | [] => []
  | .literal s l :: rest =>
    match meld rest with
    | .literal t _ :: more => .literal (s ++ t) l :: more
    | more => .literal s l :: more
  | p :: rest => p :: meld rest

/-- Drops blanks at the end of a literal piece. -/
def trimEnd : Piece → Piece
  | .literal s l => .literal (Text.trimRight s) l
  | p => p

end Piece

/-- A directive that is still open, with what was read before it. -/
inductive OpenDirective where
  | yes (condition : Expr) (line : Nat)
  | no (condition yes : Expr) (line : Nat)
  | loop (keyName : Option String) (valueName : String) (source : Expr) (line : Nat)
deriving Repr, Inhabited

/-- The text between two directives. -/
def inner (line : Nat) : List Expr → Expr
  | [] => .template [.literal (.string "") line] line
  | part :: parts => .template (part :: parts) part.line

/-- Builds expressions from pieces; `done` holds those read so far, the last
first. -/
def assemble (open_ : List (OpenDirective × List Expr)) (done : List Expr) :
    List Piece → Option (List Expr)
  | [] => if open_.isEmpty then some done.reverse else none
  | .literal s l :: rest => assemble open_ (.literal (.text s) l :: done) rest
  | .value e :: rest => assemble open_ (e :: done) rest
  | .ifOpen c l :: rest => assemble ((.yes c l, done) :: open_) [] rest
  | .forOpen k v src l :: rest => assemble ((.loop k v src l, done) :: open_) [] rest
  | .otherwise :: rest =>
    match open_ with
    | (.yes c l, before) :: more =>
      assemble ((.no c (inner l done.reverse) l, before) :: more) [] rest
    | _ => none
  | .ifClose :: rest =>
    match open_ with
    | (.yes c l, before) :: more =>
      assemble more (.conditional c (inner l done.reverse) (inner l []) :: before) rest
    | (.no c yes l, before) :: more =>
      assemble more (.conditional c yes (inner l done.reverse) :: before) rest
    | _ => none
  | .forClose :: rest =>
    match open_ with
    | (.loop k v src l, before) :: more =>
      let each := Expr.tupleLoop k v src (inner l done.reverse) (.literal (.bool true) l) l
      assemble more (.joined each :: before) rest
    | _ => none

/-- The expression of a text that opens on `line` and goes on on `nextLine`. A text
that is one interpolation has the value of it; any other text is a string. -/
def templateOf (line nextLine : Nat) (flushed : Bool) (pieces : List Piece) : Option Expr :=
  let pieces := if pieces.isEmpty then [.literal "" nextLine] else pieces
  let pieces := Piece.meld (if flushed then Piece.flush pieces else pieces)
  match pieces with
  | [.value e] => some (.interpolated e line)
  | pieces => (assemble [] [] pieces).map fun parts => .template parts line

end GraphWalk.Source
