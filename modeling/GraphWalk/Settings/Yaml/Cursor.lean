import GraphWalk.Text.Ranges

/-!
# Places in a document

A cursor is what is left of a document together with the place where that starts.
Carriage return and line feed end a line together or alone, and so do three
characters beyond ASCII.
-/

namespace GraphWalk.Yaml

/-- A place: the number of characters before it, and its line and column, all counted
from zero. -/
structure Mark where
  index : Nat
  line : Nat
  column : Nat
deriving Repr, DecidableEq, Inhabited

def Mark.start : Mark := ⟨0, 0, 0⟩

def isBlank (c : Char) : Bool := c = ' ' || c = '\t'

def isBreak (c : Char) : Bool :=
  c = '\r' || c = '\n' || c.toNat = 0x85 || c.toNat = 0x2028 || c.toNat = 0x2029

def isGap (c : Char) : Bool := isBlank c || isBreak c

/-- The characters of names and handles. -/
def isWordChar (c : Char) : Bool := c.isAlphanum || c = '_' || c = '-'

/-- Whether a text starts with a blank, a line break or its end. -/
def atGapOrEnd : List Char → Bool
  | [] => true
  | c :: _ => isGap c

/-- Whether a text starts with a line break or its end. -/
def atBreakOrEnd : List Char → Bool
  | [] => true
  | c :: _ => isBreak c

structure Cursor where
  rest : List Char
  mark : Mark
deriving Repr, DecidableEq, Inhabited

namespace Cursor

def ofText (cs : List Char) : Cursor := ⟨cs, .start⟩

def head? (c : Cursor) : Option Char := c.rest.head?

def startsWith (c : Cursor) (x : Char) : Bool := c.rest.head? = some x

/-- Passes over a number of characters that hold no line break. -/
def skip (c : Cursor) (n : Nat) : Cursor :=
  let n := min n c.rest.length
  ⟨c.rest.drop n, ⟨c.mark.index + n, c.mark.line, c.mark.column + n⟩⟩

def skipWhile (c : Cursor) (p : Char → Bool) : Cursor := c.skip (c.rest.takeWhile p).length

/-- Passes over a line break, and gives what it stands for in a text. -/
def readLine (c : Cursor) : List Char × Cursor :=
  let next := fun (n : Nat) (rest : List Char) =>
    (⟨rest, ⟨c.mark.index + n, c.mark.line + 1, 0⟩⟩ : Cursor)
  match c.rest with
  | '\r' :: '\n' :: rest => (['\n'], next 2 rest)
  | x :: rest =>
    if x = '\r' || x = '\n' || x.toNat = 0x85 then (['\n'], next 1 rest)
    else if isBreak x then ([x], next 1 rest)
    else ([], c)
  | [] => ([], c)

def skipLine (c : Cursor) : Cursor := c.readLine.2

/-- Passes over characters of all kinds until `n` are left. -/
def skipTo (n : Nat) : Nat → Cursor → Cursor
  | 0, c => c
  | fuel + 1, c =>
    if c.rest.length ≤ n then c
    else match c.rest with
      | [] => c
      | x :: _ => skipTo n fuel (if isBreak x then c.skipLine else c.skip 1)

/-- Whether a line starts here with three marks that start or end a document. -/
def atDocumentMark (c : Cursor) : Bool :=
  c.mark.column = 0 && (match c.rest with
    | '-' :: '-' :: '-' :: rest => atGapOrEnd rest
    | '.' :: '.' :: '.' :: rest => atGapOrEnd rest
    | _ => false)

end Cursor

end GraphWalk.Yaml
