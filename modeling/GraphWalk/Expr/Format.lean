import GraphWalk.Text.Grapheme
import GraphWalk.Value.Conversion
import GraphWalk.Value.Text

/-!
# Formatted texts

`Format.render` fills values into a text at its verbs. A verb is a percent sign,
flags, a width, a precision, an argument number in brackets, and a letter; two
percent signs stand for one. Widths of texts count visible characters.

The numbers in a verb are machine words: they wrap around, and a width or an
argument number that comes out negative is as good as none. A number is not written
at all into a field that is too wide for it, or with too many places; a note on the
verb and the number stands in its place.
-/

namespace GraphWalk.Format

/-- A verb of a format text, with the width, the precision and the argument number
as they stand there. Arguments count from one. -/
structure Verb where
  sharp : Bool := false
  zero : Bool := false
  minus : Bool := false
  plus : Bool := false
  space : Bool := false
  width : Option Nat := none
  precision : Option Nat := none
  argument : Nat
  letter : Char
deriving Repr, DecidableEq

/-- Why a text cannot be formatted: some argument is left over, counting from
zero, or anything else. -/
inductive Failure where
  | unused (argument : Nat)
  | invalid
deriving Repr, DecidableEq

def isDigit (c : Char) : Bool := '0' ≤ c && c ≤ '9'

def natOf (ds : List Char) : Nat := ds.foldl (fun n d => 10 * n + (d.toNat - '0'.toNat)) 0

/-- Reads the flags of a verb. -/
def flags (v : Verb) : List Char → Verb × List Char
  | '0' :: cs => flags { v with zero := true } cs
  | '#' :: cs => flags { v with sharp := true } cs
  | '-' :: cs => flags { v with minus := true } cs
  | '+' :: cs => flags { v with plus := true } cs
  | ' ' :: cs => flags { v with space := true } cs
  | cs => (v, cs)

/-- Reads the width, which does not start with a zero. -/
def width (v : Verb) (cs : List Char) : Verb × List Char :=
  let ds := cs.takeWhile isDigit
  if ds.isEmpty then (v, cs) else ({ v with width := some (natOf ds) }, cs.drop ds.length)

/-- Reads the precision; a point alone means none of digits. -/
def precision (v : Verb) : List Char → Verb × List Char
  | '.' :: cs =>
    let ds := cs.takeWhile isDigit
    ({ v with precision := some (natOf ds) }, cs.drop ds.length)
  | cs => (v, cs)

/-- A number of a verb as a signed word of 64 bits, or zero if it is negative. -/
def word (n : Nat) : Nat := (Int.bmod n 18446744073709551616).toNat

/-- Reads the number of the argument. -/
def argument (v : Verb) : List Char → Option (Verb × List Char)
  | '[' :: cs =>
    let ds := cs.takeWhile isDigit
    match ds, cs.drop ds.length with
    | d :: _, ']' :: rest => if d = '0' then none else some ({ v with argument := word (natOf ds) }, rest)
    | _, _ => none
  | cs => some (v, cs)

def isLetter (c : Char) : Bool := ('a' ≤ c && c ≤ 'z') || ('A' ≤ c && c ≤ 'Z')

/-- Reads a verb behind its percent sign; `next` is the argument it takes unless
it names one. -/
def verb (next : Nat) (cs : List Char) : Option (Verb × List Char) := do
  let (v, cs) := flags { argument := next, letter := 'v' } cs
  let (v, cs) := width v cs
  let (v, cs) := precision v cs
  let (v, cs) ← argument v cs
  match cs with
  | c :: rest => if isLetter c then some ({ v with letter := c }, rest) else none
  | [] => none

/-- The least number of characters that cannot be made at once. -/
def unmakeable : Nat := 281474976710656

/-- Fills up to the width of the verb; none if that takes too many characters. -/
def pad (v : Verb) (s : String) : Option String :=
  match v.width with
  | none => some s
  | some w =>
    let missing := word w - Text.columns s.toList
    if unmakeable ≤ missing then none
    else
      let fill := "".pushn (if v.zero then '0' else ' ') missing
      some (if v.minus then s ++ fill else fill ++ s)

/-- The sign to write in front of a number that is not negative. -/
def Verb.sign (v : Verb) : String := if v.plus then "+" else if v.space then " " else ""

/-- Digits in a base up to sixteen. -/
def digits (base : Nat) (upper : Bool) (n : Nat) : String :=
  let ds := String.ofList (Nat.toDigits base n)
  if upper then ds.toUpper else ds

/-- The mark in front of the digits of a base. -/
def Verb.baseMark (v : Verb) : String :=
  if v.sharp then match v.letter with
    | 'b' => "0b"
    | 'o' => "0"
    | 'x' => "0x"
    | 'X' => "0X"
    | _ => ""
  else ""

/-- Whether a field has more characters, or a number more places, than a number may
be written with. -/
def excessive (n : Nat) : Bool := 1000000 < n / 10

/-- Whether a number can be written by this verb. -/
def Verb.fitsNumber (v : Verb) : Bool :=
  !v.width.any excessive && !v.precision.any excessive

/-- What stands in place of a number that the verb cannot write. -/
def unwritten (kind text : String) : String :=
  "%!(NOVERB)%!(EXTRA *big." ++ kind ++ "=" ++ text ++ ")"

/-- A whole number. The precision is the least number of digits; a zero of no
digits is empty, whatever the width. -/
def whole (v : Verb) (i : Int) : String :=
  let base := match v.letter with
    | 'b' => 2
    | 'o' => 8
    | 'x' | 'X' => 16
    | _ => 10
  let ds := digits base (v.letter = 'X') i.natAbs
  if v.precision = some 0 && i = 0 then ""
  else
    let sign := if i < 0 then "-" else v.sign
    let zeros := match v.precision with
      | some p => p - ds.length
      | none => 0
    let missing := v.width.getD 0 - (sign.length + v.baseMark.length + zeros + ds.length)
    let left := if v.minus || (v.zero && v.precision.isNone) then 0 else missing
    let zeros := if !v.minus && v.zero && v.precision.isNone then missing else zeros
    let right := if v.minus then missing else 0
    "".pushn ' ' left ++ sign ++ v.baseMark ++ "".pushn '0' zeros ++ ds ++ "".pushn ' ' right

/-- A number with a point or an exponent. Zeros fill the field in front of it even
if it stands at the left. -/
def decimal (v : Verb) (n : Number) : String :=
  let text := match v.letter with
    | 'f' => n.render .positional (some (v.precision.getD 6))
    | 'e' => n.render (.scientific false) (some (v.precision.getD 6))
    | 'E' => n.render (.scientific true) (some (v.precision.getD 6))
    | 'G' => n.render (.general true) v.precision
    | _ => n.render (.general false) v.precision
  let (sign, body) := match text.toList with
    | '-' :: rest => ("-", String.ofList rest)
    | '+' :: rest => (if v.space then " " else "+", String.ofList rest)
    | rest => (v.sign, String.ofList rest)
  let missing := v.width.getD 0 - (sign.length + body.length)
  if v.zero && !n.isInfinite then sign ++ "".pushn '0' missing ++ body
  else if v.minus then sign ++ body ++ "".pushn ' ' missing
  else "".pushn ' ' missing ++ sign ++ body

/-- A value as it is: texts and numbers plainly unless the sharp flag is set, all
else as JSON. -/
def plain (v : Verb) (x : Value) : Option String :=
  let json := x.jsonText.toOption.bind (pad v)
  if v.sharp then json
  else match x with
    | .string s => pad v s
    | .number n => pad v (n.render (.general false) none)
    | _ => json

/-- The first visible characters of a text; a precision of zero cuts nothing. -/
def cut (v : Verb) (s : String) : String :=
  match v.precision.map word with
  | some (p + 1) => String.ofList ((Text.clusters s.toList).take (p + 1)).flatten
  | _ => s

/-- The text of a value for a verb; none if the value does not fit. -/
def Verb.fill (v : Verb) (x : Value) : Option String :=
  if v.letter = 'v' then plain v x
  else if x.isNull then none
  else match v.letter with
    | 't' => match x.convert .bool with
      | .ok (.bool b) => some (if b then "true" else "false")
      | _ => none
    | 'b' | 'd' | 'o' | 'x' | 'X' => match x.convert .number with
      | .ok (.number n) =>
        if n.isWhole then
          n.trunc?.map fun i =>
            if v.fitsNumber then whole v i else unwritten "Int" (toString i)
        else none
      | _ => none
    | 'e' | 'E' | 'f' | 'g' | 'G' => match x.convert .number with
      | .ok (.number n) => some <|
        if v.fitsNumber then decimal v n
        else unwritten "Float" (n.render (.general false) none)
      | _ => none
    | 's' => match x.convert .string with
      | .ok (.string s) => pad v (cut v s)
      | _ => none
    | 'q' => match x.convert .string with
      | .ok (.string s) => pad v (Json.quoted (cut v s))
      | _ => none
    | _ => none

/-- The value that a verb takes. -/
def Verb.value? (v : Verb) (args : List Value) : Option Value :=
  match v.argument with
  | 0 => none
  | n + 1 => args[n]?

/-- Renders from the current place; `next` is the next argument in order and
`highest` the highest used so far. -/
def go (fuel next highest : Nat) (args : List Value) (acc : String) (cs : List Char) :
    Except Failure (String × Nat) :=
  match fuel, cs with
  | _, [] => .ok (acc, highest)
  | 0, _ => .error .invalid
  | fuel + 1, '%' :: '%' :: cs => go fuel next highest args (acc.push '%') cs
  | fuel + 1, '%' :: cs =>
    match verb next cs with
    | none => .error .invalid
    | some (v, rest) =>
      match (v.value? args).bind v.fill with
      | none => .error .invalid
      | some s => go fuel (v.argument + 1) (max highest v.argument) args (acc ++ s) rest
  | fuel + 1, c :: cs => go fuel next highest args (acc.push c) cs

/-- Fills the arguments into a format text. All arguments must be used. -/
def render (format : String) (args : List Value) : Except Failure String := do
  let cs := format.toList
  let (s, highest) ← go (cs.length + 1) 1 0 args "" cs
  if highest < args.length then throw (.unused highest)
  return s

end GraphWalk.Format
