import GraphWalk.Number.Double
import GraphWalk.Text.Quoted
import GraphWalk.Time

/-!
# Values of settings

A setting comes as a text, a number or a switch, depending on where it was found,
and is asked for as one of these. What does not fit counts as nothing: an empty
text, zero, or off.

A moment is shown by its date, its time of day without zeros at the end of the
second, and how far its zone is ahead. A zone has no name but `UTC`.
-/

/-! ## Whole numbers

A whole number is a sign and digits, of base ten unless they start with `0x`, `0o`,
`0b` or a plain zero. Underscores may stand between digits. It has to fit into 64
bits. -/

namespace GraphWalk.Whole

inductive ReadFault where
  | malformed
  | tooLarge
deriving Repr, DecidableEq

def ReadFault.message : ReadFault → String
  | .malformed => "invalid syntax"
  | .tooLarge => "value out of range"

/-- The value of a digit or letter. -/
def digit? (c : Char) : Option Nat :=
  if c.isDigit then some (c.toNat - '0'.toNat)
  else if 'a' ≤ c ∧ c ≤ 'z' then some (c.toNat - 'a'.toNat + 10)
  else if 'A' ≤ c ∧ c ≤ 'Z' then some (c.toNat - 'A'.toNat + 10)
  else none

/-- The base of digits, and the digits behind its mark. -/
def splitBase : List Char → Nat × List Char
  | '0' :: m :: c :: rest =>
    if m = 'b' ∨ m = 'B' then (2, c :: rest)
    else if m = 'o' ∨ m = 'O' then (8, c :: rest)
    else if m = 'x' ∨ m = 'X' then (16, c :: rest)
    else (8, m :: c :: rest)
  | '0' :: rest => (8, rest)
  | cs => (10, cs)

/-- Reads digits from left to right, up to the first fault. -/
def readDigits (base : Nat) : Nat → List Char → Except ReadFault Nat
  | n, [] => .ok n
  | n, c :: cs =>
    if c = '_' then readDigits base n cs
    else match digit? c with
      | none => .error .malformed
      | some d =>
        if d ≥ base then .error .malformed
        else if n * base + d ≥ UInt64.size then .error .tooLarge
        else readDigits base (n * base + d) cs

/-- Whether every underscore stands between digits. `afterDigit` says whether a digit
or the mark of a base stands before. -/
def underscoresFit : Bool → List Char → Bool
  | _, [] => true
  | afterDigit, '_' :: rest =>
    afterDigit && (match rest with
      | [] => false
      | c :: _ => c ≠ '_') && underscoresFit false rest
  | _, _ :: rest => underscoresFit true rest

/-- The size of the least whole number. -/
def least : Nat := 9223372036854775808

/-- Reads a whole number of 64 bits. -/
def read (s : String) : Except ReadFault Int :=
  let (negative, body) := match s.toList with
    | '-' :: cs => (true, cs)
    | '+' :: cs => (false, cs)
    | cs => (false, cs)
  if body.isEmpty then .error .malformed
  else
    let (base, digits) := splitBase body
    match readDigits base 0 digits with
    | .error f => .error f
    | .ok n =>
      if !underscoresFit (body.head? = some '0') digits then .error .malformed
      else if negative then (if n > least then .error .tooLarge else .ok (-(n : Int)))
      else if n ≥ least then .error .tooLarge else .ok n

/-- Reads a number without a sign that fits into 64 bits. -/
def readUnsigned (s : String) : Except ReadFault Nat :=
  let body := s.toList
  if body.isEmpty then .error .malformed
  else
    let (base, digits) := splitBase body
    match readDigits base 0 digits with
    | .error f => .error f
    | .ok n => if underscoresFit (body.head? = some '0') digits then .ok n else .error .malformed

/-- Reads a whole number of 64 bits in a given base, without marks. -/
def readIn (base : Nat) (s : String) : Except ReadFault Int :=
  let (negative, digits) := match s.toList with
    | '-' :: cs => (true, cs)
    | '+' :: cs => (false, cs)
    | cs => (false, cs)
  if digits.isEmpty || digits.contains '_' then .error .malformed
  else match readDigits base 0 digits with
    | .error f => .error f
    | .ok n =>
      if negative then (if n > least then .error .tooLarge else .ok (-(n : Int)))
      else if n ≥ least then .error .tooLarge else .ok n

/-- What is left of a whole number in 64 bits with a sign. -/
def wrapped (n : Int) : Int := n.bmod UInt64.size

end GraphWalk.Whole

/-! ## Dates and times -/

namespace GraphWalk

structure Timestamp where
  date : Instant.Date
  hour : Nat
  minute : Nat
  second : Nat
  nanos : Nat
  /-- How many seconds the zone is ahead of UTC. -/
  offset : Int
deriving Repr, DecidableEq, Inhabited

namespace Timestamp

def dateText (d : Instant.Date) : String :=
  Instant.yearText d.year ++ "-" ++ Instant.padded 2 d.month ++ "-" ++ Instant.padded 2 d.day

/-- The digits behind the point, without the zeros at the end. -/
def fractionText (nanos : Nat) : String :=
  if nanos = 0 then ""
  else "." ++ String.ofList ((Instant.padded 9 nanos).toList.reverse.dropWhile (· = '0')).reverse

/-- Whether a date is in the calendar. -/
def isDate (d : Instant.Date) : Bool :=
  1 ≤ d.month && d.month ≤ 12 && 1 ≤ d.day && d.day ≤ Instant.daysIn d.year d.month

/-- How far a zone is ahead, with a sign. -/
def offsetText (offset : Int) : String :=
  let minutes := offset.natAbs / 60
  (if offset < 0 then "-" else "+") ++ Instant.padded 2 (minutes / 60)
    ++ Instant.padded 2 (minutes % 60)

/-- A second at the end of a minute, where there is one more, belongs to the next
minute. -/
def carried (m : Timestamp) : Timestamp :=
  if m.second < 60 then m
  else
    let total := (m.hour * 60 + m.minute) * 60 + m.second
    let clock := total % 86400
    { m with
      date := Instant.dateOf (Instant.daysOf m.date + total / 86400)
      hour := clock / 3600, minute := clock / 60 % 60, second := clock % 60 }

def text (m : Timestamp) : String :=
  let m := m.carried
  dateText m.date ++ " " ++ Instant.padded 2 m.hour ++ ":" ++ Instant.padded 2 m.minute ++ ":"
    ++ Instant.padded 2 m.second ++ fractionText m.nanos ++ " " ++ offsetText m.offset ++ " "
    ++ (if m.offset = 0 then "UTC" else offsetText m.offset)

end Timestamp

end GraphWalk

/-! ## Values -/

namespace GraphWalk

inductive SettingValue where
  | text (s : String)
  | whole (n : Int)
  | real (d : Number.Double)
  | infinite (neg : Bool)
  | notNumber
  | switch (b : Bool)
  /-- A date or a time of day, as it is shown. -/
  | moment (shown : String)
  /-- A list or a table of values. -/
  | compound
deriving Repr, DecidableEq, Inhabited

namespace SettingValue

/-- Reads a switch. -/
def readSwitch? (s : String) : Option Bool :=
  if ["1", "t", "T", "true", "TRUE", "True"].contains s then some true
  else if ["0", "f", "F", "false", "FALSE", "False"].contains s then some false
  else none

/-- A decimal text without what stands behind its point. -/
def dropFraction (s : String) : String :=
  let (sign, body) := match s.toList with
    | '-' :: cs => (['-'], cs)
    | '+' :: cs => (['+'], cs)
    | cs => ([], cs)
  let whole := body.takeWhile Char.isDigit
  match body.dropWhile Char.isDigit with
  | '.' :: rest =>
    if rest.all Char.isDigit then
      String.ofList (sign ++ (if whole.isEmpty then ['0'] else whole))
    else s
  | _ => s

/-- Positional notation with the fewest digits that identify a number among the
binary numbers of 64 bits. -/
def realText (d : Number.Double) : String :=
  let digits := d.shortest
  (if d.neg then "-" else "") ++ Number.Layout.render .positional digits digits none

def toText : SettingValue → String
  | .text s => s
  | .whole n => toString n
  | .real d => realText d
  | .infinite neg => if neg then "-Inf" else "+Inf"
  | .notNumber => "NaN"
  | .switch b => if b then "true" else "false"
  | .moment shown => shown
  | .compound => ""

/-- The least whole number stands for all that does not fit into 64 bits. -/
def leastWhole : Int := -(Whole.least : Int)

def toWhole : SettingValue → Int
  | .text s => if s = "" then 0 else ((Whole.read (dropFraction s)).toOption).getD 0
  | .whole n => Whole.wrapped n
  | .real d =>
    let n := d.trunc
    if leastWhole ≤ n && n < Whole.least then n else leastWhole
  | .infinite _ | .notNumber => leastWhole
  | .switch b => if b then 1 else 0
  | .moment _ | .compound => 0

def toSwitch : SettingValue → Bool
  | .text s => (readSwitch? s).getD false
  | .whole n => n ≠ 0
  | .real d => d.mant ≠ 0
  | .infinite _ | .notNumber => true
  | .switch b => b
  | .moment _ | .compound => false

end SettingValue

end GraphWalk
