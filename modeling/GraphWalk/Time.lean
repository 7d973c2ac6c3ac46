import GraphWalk.Text.Quoted

/-!
# Instants

An instant is a number of seconds since 1970 and a part of a second in
nanoseconds. Its text is the date and time of day in UTC. Two layouts are used:
one with nine digits after the point always, and one without the zeros at the
end.
-/

namespace GraphWalk

structure Instant where
  seconds : Int
  nanos : Nat
deriving Repr, DecidableEq, Inhabited

namespace Instant

/-- The start of the year one, which stands for no time at all. -/
def zero : Instant := ⟨-62135596800, 0⟩

/-- A day of the calendar. -/
structure Date where
  year : Int
  month : Nat
  day : Nat
deriving Repr, DecidableEq, Inhabited

def isLeap (year : Int) : Bool := year % 4 = 0 && (year % 100 != 0 || year % 400 = 0)

def daysIn (year : Int) (month : Nat) : Nat :=
  if month = 2 then (if isLeap year then 29 else 28)
  else if [4, 6, 9, 11].contains month then 30 else 31

/-- The number of days from the start of 1970 to a day. Years start in March
here, so that the leap day is the last of a year. -/
def daysOf (d : Date) : Int :=
  let y := if d.month ≤ 2 then d.year - 1 else d.year
  let era := y / 400
  let yoe := y - era * 400
  let m : Int := if d.month > 2 then d.month - 3 else d.month + 9
  let doy := (153 * m + 2) / 5 + d.day - 1
  let doe := yoe * 365 + yoe / 4 - yoe / 100 + doy
  era * 146097 + doe - 719468

/-- The day that lies a number of days after the start of 1970. -/
def dateOf (days : Int) : Date :=
  let z := days + 719468
  let era := z / 146097
  let doe := z - era * 146097
  let yoe := (doe - doe / 1460 + doe / 36524 - doe / 146096) / 365
  let doy := doe - (365 * yoe + yoe / 4 - yoe / 100)
  let mp := (5 * doy + 2) / 153
  let day := doy - (153 * mp + 2) / 5 + 1
  let month := if mp < 10 then mp + 3 else mp - 9
  let year := yoe + era * 400 + (if month ≤ 2 then 1 else 0)
  ⟨year, month.toNat, day.toNat⟩

/-- A number with zeros in front, up to a width. -/
def padded (width n : Nat) : String :=
  let s := toString n
  String.ofList (List.replicate (width - s.length) '0') ++ s

def yearText (y : Int) : String :=
  if y < 0 then "-" ++ padded 4 y.natAbs else padded 4 y.toNat

/-- Date and time of day, up to the seconds. -/
def wholeText (t : Instant) : String :=
  let days := t.seconds / 86400
  let secs := (t.seconds % 86400).toNat
  let d := dateOf days
  yearText d.year ++ "-" ++ padded 2 d.month ++ "-" ++ padded 2 d.day ++ "T"
    ++ padded 2 (secs / 3600) ++ ":" ++ padded 2 (secs / 60 % 60) ++ ":" ++ padded 2 (secs % 60)

/-- The layout with nine digits after the point. -/
def fixedText (t : Instant) : String := t.wholeText ++ "." ++ padded 9 t.nanos ++ "Z"

/-- The layout without zeros at the end, nor a point before nothing. -/
def shortText (t : Instant) : String :=
  if t.nanos = 0 then t.wholeText ++ "Z"
  else
    let digits := ((padded 9 t.nanos).toList.reverse.dropWhile (· = '0')).reverse
    t.wholeText ++ "." ++ String.ofList digits ++ "Z"

/-- Reads exactly `n` digits. -/
def takeDigits (n : Nat) (cs : List Char) : Option (Nat × List Char) :=
  let ds := cs.take n
  if ds.length = n ∧ ds.all Char.isDigit then
    some (ds.foldl (fun v c => 10 * v + (c.toNat - '0'.toNat)) 0, cs.drop n)
  else none

/-- Reads a number of one or two digits. -/
def takeShort (cs : List Char) : Option (Nat × List Char) :=
  match takeDigits 2 cs with
  | some r => some r
  | none => takeDigits 1 cs

def takeChar (c : Char) : List Char → Option (List Char)
  | d :: rest => if d = c then some rest else none
  | [] => none

/-- Reads a part of a second, of which nine digits count; none is zero. -/
def takeFraction (cs : List Char) : Nat × List Char :=
  match cs with
  | c :: rest =>
    let ds := rest.takeWhile Char.isDigit
    if (c = '.' || c = ',') && !ds.isEmpty then
      let nine := (ds ++ List.replicate 9 '0').take 9
      (nine.foldl (fun v c => 10 * v + (c.toNat - '0'.toNat)) 0, rest.dropWhile Char.isDigit)
    else (0, cs)
  | [] => (0, [])

/-- Reads a zone: `Z`, or a sign with hours and minutes. -/
def takeZone (cs : List Char) : Option (Int × List Char) :=
  match cs with
  | 'Z' :: rest => some (0, rest)
  | sign :: rest => do
    let (h, rest) ← takeDigits 2 rest
    let rest ← takeChar ':' rest
    let (m, rest) ← takeDigits 2 rest
    if h > 24 || m > 60 then none
    else
      let offset : Int := (h * 60 + m) * 60
      if sign = '+' then some (offset, rest)
      else if sign = '-' then some (-offset, rest) else none
  | [] => none

/-- Reads an instant with or without a part of a second. -/
def parse? (s : String) : Option Instant := do
  let (year, cs) ← takeDigits 4 s.toList
  let cs ← takeChar '-' cs
  let (month, cs) ← takeDigits 2 cs
  let cs ← takeChar '-' cs
  let (day, cs) ← takeDigits 2 cs
  let cs ← takeChar 'T' cs
  let (hour, cs) ← takeShort cs
  let cs ← takeChar ':' cs
  let (minute, cs) ← takeDigits 2 cs
  let cs ← takeChar ':' cs
  let (second, cs) ← takeDigits 2 cs
  let (nanos, cs) := takeFraction cs
  let (offset, cs) ← takeZone cs
  if !cs.isEmpty || month < 1 || month > 12 || day < 1 || day > daysIn year month
      || hour > 23 || minute > 59 || second > 59 then none
  else
    let clock : Int := hour * 3600 + minute * 60 + second
    some ⟨daysOf ⟨year, month, day⟩ * 86400 + clock - offset, nanos⟩

/-- Reads back what `fixedText` wrote, or says where the text departs from the
layout. Only years of four digits can be read back. -/
def parseFixed (s : String) : Except String Instant :=
  match parse? s with
  | some t => .ok t
  | none =>
    let layout := "2006-01-02T15:04:05.000000000Z07:00"
    let (rest, what) := match takeDigits 4 s.toList with
      | none => (s.toList, "2006")
      | some (_, rest) => (rest, "-")
    .error ("parsing time " ++ Text.quote s ++ " as " ++ Text.quote layout ++ ": cannot parse "
      ++ Text.quote (String.ofList rest) ++ " as " ++ Text.quote what)

end Instant

end GraphWalk
