import GraphWalk.Text.Grapheme
import GraphWalk.Text.Mark

/-!
# Canonical composition

Every string value is kept in canonical composed form: in each segment of the text, a
letter with the marks behind it, the characters are taken apart, the marks are put in
the order of their combining classes, and what can be put together again is. The form
is safe for streaming: a segment never has more than thirty marks; where one would, a
joining mark divides it.

When the start of a text is known and the rest is not, the rest may still change
the end of the known part: a mark may join the last letter. `knownStart` keeps what
no rest can change.
-/

namespace GraphWalk.Text

/-- A letter with the marks behind it. It is `broken` when more marks follow than one
segment holds. -/
structure Segment where
  chars : List Nat
  broken : Bool := false

/-- The largest number of marks in a segment. -/
def markLimit : Nat := 30

/-- Cuts a text into segments. `acc` is the segment so far, in reverse, with `count`
marks at its end. -/
def segmentsFrom (acc : List Nat) (count : Nat) : List Nat → List Segment
  | [] => [{ chars := acc.reverse }]
  | n :: ns =>
    let lead := leadingMarks n
    if lead = 0 then { chars := acc.reverse } :: segmentsFrom [n] (trailingMarks n) ns
    else if markLimit < count + lead then
      { chars := acc.reverse, broken := true } :: segmentsFrom [n] lead ns
    else segmentsFrom (n :: acc) (count + lead) ns

/-- The segments of a text. -/
def segments (ns : List Nat) : List Segment := segmentsFrom [] 0 ns

/-- Puts a mark behind all marks of the run whose class is not larger. -/
def insertMark (n : Nat) : List Nat → List Nat
  | [] => [n]
  | m :: ms => if markClass n < markClass m then n :: m :: ms else m :: insertMark n ms

/-- Sorts every run of marks by class, keeping the order within a class. `run`
holds the marks read so far. -/
def orderMarks (run : List Nat) : List Nat → List Nat
  | [] => run
  | n :: ns =>
    if markClass n = 0 then run ++ n :: orderMarks [] ns
    else orderMarks (insertMark n run) ns

/-- Puts marks together with the letter in front of them. `kept` are the marks behind
`base` that stay, in reverse, the last of class `last`: what has no larger class than a
mark between does not reach the letter. -/
def composeRun (base : Nat) (kept : List Nat) (last : Nat) : List Nat → List Nat
  | [] => base :: kept.reverse
  | n :: ns =>
    let c := markClass n
    match if !kept.isEmpty && c ≤ last then none else pair? base n with
    | some p => composeRun p kept last ns
    | none =>
      if c = 0 then base :: kept.reverse ++ composeRun n [] 0 ns
      else composeRun base (n :: kept) c ns

/-- The canonical composed form of a segment. Its first character serves as the letter,
even if it is a mark. -/
def Segment.compose (seg : Segment) : List Nat :=
  let composed := match orderMarks [] (seg.chars.flatMap (decomposeChar 5)) with
    | [] => []
    | n :: ns => composeRun n [] 0 ns
  if seg.broken then composed ++ [0x34F] else composed

/-- The canonical composed form of a string. -/
def canonical (s : String) : String :=
  if s.toList.all (fun c : Char => c.toNat < 0x300) then s
  else String.ofList (((segments (s.toList.map Char.toNat)).flatMap Segment.compose).map Char.ofNat)

end GraphWalk.Text

/-! ## Known starts -/

namespace GraphWalk.Text

/-- Drops the last character that does not begin with a mark, and all marks behind it;
`none` if there are only marks. -/
def dropLastLetter? (cs : List Char) : Option (List Char) :=
  match cs.reverse.dropWhile fun c => leadingMarks c.toNat ≠ 0 with
  | [] => none
  | _ :: front => some front.reverse

/-- Signs that divide the parts of a text. A text that ends in one of them is taken to
be complete so far. -/
def isDivider (c : Char) : Bool := "-_:;/\\,.()\x7b\x7d[]|?!~ \t@#$%^&*+\"'".contains c

/-- The clusters of a text that no rest can still change: all but the last, unless that
is a dividing sign alone. -/
def closedClusters (cs : List Char) : List (List Char) :=
  let all := clusters cs
  match all.getLast? with
  | some [c] => if isDivider c then all else all.dropLast
  | _ => all.dropLast

/-- The part of a text that stays as it is whatever follows. When what follows is `torn`,
the middle of a character, it joins no complete character. -/
def knownStart (s : String) (torn : Bool := false) : String :=
  let cs := (canonical s).toList
  let closed := (closedClusters cs).flatten
  match cs.getLast? with
  | none => ""
  | some c =>
    if isInert c then String.ofList (if torn then cs else closed)
    else String.ofList ((dropLastLetter? cs).getD closed)

/-- The longest start of a text that takes no more than `limit` bytes. -/
def takeBytes (limit : Nat) : List Char → List Char
  | [] => []
  | c :: cs => if c.utf8Size ≤ limit then c :: takeBytes (limit - c.utf8Size) cs else []

end GraphWalk.Text
