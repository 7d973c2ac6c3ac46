import GraphWalk.Settings.Value
import GraphWalk.Settings.Toml.Item

/-!
# Numbers and dates in TOML

Underscores stand between digits, a decimal number has no zeros in front, and a point
has a digit on either side. Dates and times have fixed widths.
-/

namespace GraphWalk.Toml

/-! ## Whole numbers -/

/-- Removes underscores behind the first one, between which there are digits. -/
def dropUnderscores (before : Bool) : List Char → Except Problem (List Char)
  | [] => .ok []
  | c :: rest =>
    if c = '_' then if before then dropUnderscores false rest else .error .underscoreTwice
    else (dropUnderscores true rest).map (c :: ·)

/-- The digits of a whole number, and its sign, without underscores. -/
def wholeDigits (cs : List Char) : Except Problem (List Char) :=
  let body := match cs with
    | '+' :: rest => rest
    | '-' :: rest => rest
    | _ => cs
  if body.isEmpty then .ok cs
  else if body.head? = some '_' then .error .underscoreFirst
  else if body.getLast? = some '_' then .error .underscoreLast
  else
    let front := cs.takeWhile (· ≠ '_')
    match cs.drop front.length with
    | [] => .ok cs
    | _ :: rest => (dropUnderscores false rest).map (front ++ ·)

/-- Reads digits in a base, which messages name. -/
def readWhole (base : Nat) (name : String) (cs : List Char) : Except Problem Int :=
  let digits := String.ofList cs
  match Whole.readIn base digits with
  | .ok n => .ok n
  | .error f => .error (.wholeNumber name digits f)

def wholeOf (cs : List Char) : Except Problem Int :=
  match cs with
  | '0' :: m :: c :: rest => do
    let digits ← wholeDigits (c :: rest)
    if m = 'x' then readWhole 16 "hexadecimal" digits
    else if m = 'o' then readWhole 8 "octal" digits
    else if m = 'b' then readWhole 2 "binary" digits
    else throw .leadingZero
  | cs => do
    let digits ← wholeDigits cs
    let body := match digits with
      | '+' :: rest => rest
      | '-' :: rest => rest
      | _ => digits
    if body.length > 1 && body.head? = some '0' then throw .leadingZero
    readWhole 10 "decimal" digits

/-! ## Real numbers -/

/-- Removes underscores from a real number. `before` is the character in front of the
rest, and `digit` says whether a digit has been seen since the last underscore. -/
def cleanReal (before : Char) (digit : Bool) : List Char → Except Problem (List Char)
  | [] => .ok []
  | c :: rest =>
    let next := rest.head?
    if c = '_' then
      if !digit then .error .underscoreTwice
      else if next = some 'e' || next = some 'E' then .error .underscoreBeforeExponent
      else cleanReal c false rest
    else if c = '+' || c = '-' then (cleanReal c false rest).map (c :: ·)
    else if c = 'e' || c = 'E' then
      if next = some '_' then .error .underscoreAfterExponent
      else (cleanReal c digit rest).map (c :: ·)
    else if c = '.' then
      if next = some '_' then .error .underscoreAfterPoint
      else if before = '_' then .error .underscoreBeforePoint
      else (cleanReal c digit rest).map (c :: ·)
    else (cleanReal c true rest).map (c :: ·)

/-- The characters of a real number without underscores. -/
def realDigits (cs : List Char) : Except Problem (List Char) :=
  if cs.head? = some '_' then .error .underscoreFirst
  else if cs.getLast? = some '_' then .error .underscoreLast
  else if !cs.contains '_' then .ok cs
  else cleanReal ' ' false cs

/-- Finds fault with the points of a number. -/
def checkPoints (before : Char) (seen : Bool) : List Char → Except Problem Unit
  | [] => .ok ()
  | c :: rest =>
    if c ≠ '.' then checkPoints c seen rest
    else if seen then .error .secondPoint
    else if !before.isDigit then .error .digitBeforePoint
    else if !(rest.head?.map Char.isDigit).getD false then .error .digitAfterPoint
    else checkPoints c true rest

/-- The value of a real number. -/
def realOf (cs : List Char) : Except Problem SettingValue := do
  if ["nan", "+nan", "-nan"].contains (String.ofList cs) then return .notNumber
  let digits ← realDigits cs
  if digits.head? = some '.' then throw .pointFirst
  if digits.getLast? = some '.' then throw .pointLast
  checkPoints ' ' false digits
  let body := match digits with
    | '+' :: rest => rest
    | '-' :: rest => rest
    | _ => digits
  if body.head? = some '0' && ((body.drop 1).head?.map Char.isDigit).getD false then
    throw .realLeadingZero
  let text := String.ofList digits
  if body = ['i', 'n', 'f'] then return .infinite (digits.head? = some '-')
  if !Number.isDecimal digits then throw (.realNumber text .malformed)
  match Number.Double.read? text with
  | some d => return .real d
  | none => throw (.realNumber text .tooLarge)

/-! ## Dates -/

/-- The number of decimal digits. -/
def digitsOf (cs : List Char) : Except Problem Nat :=
  if cs.all Char.isDigit then .ok (cs.foldl (fun n c => 10 * n + (c.toNat - '0'.toNat)) 0)
  else .error .digitExpected

def dateOf (cs : List Char) : Except Problem Instant.Date := do
  if cs.length ≠ 10 || (cs.drop 4).head? ≠ some '-' || (cs.drop 7).head? ≠ some '-' then
    throw .dateForm
  let year ← digitsOf (cs.take 4)
  let month ← digitsOf ((cs.drop 5).take 2)
  let day ← digitsOf ((cs.drop 8).take 2)
  let d : Instant.Date := ⟨year, month, day⟩
  if !Timestamp.isDate d then throw .impossibleDate
  return d

/-- A time of day; `places` are the digits behind the point that were given. -/
structure Clock where
  hour : Nat
  minute : Nat
  second : Nat
  nanos : Nat
  places : Nat
deriving Inhabited

/-- A time of day at the front, and what follows it. -/
def clockOf (cs : List Char) : Except Problem (Clock × List Char) := do
  if cs.length < 8 then throw .timeForm
  let hour ← digitsOf (cs.take 2)
  if hour > 23 then throw .hourRange
  if (cs.drop 2).head? ≠ some ':' then throw .minuteColon
  let minute ← digitsOf ((cs.drop 3).take 2)
  if minute > 59 then throw .minuteRange
  if (cs.drop 5).head? ≠ some ':' then throw .secondColon
  let second ← digitsOf ((cs.drop 6).take 2)
  if second > 60 then throw .secondRange
  match cs.drop 8 with
  | '.' :: rest =>
    let ds := rest.takeWhile Char.isDigit
    if ds.isEmpty then throw (if rest.isEmpty then .fractionEmpty else .fractionDigit)
    let nine := (ds ++ List.replicate 9 '0').take 9
    return (⟨hour, minute, second, ← digitsOf nine, min ds.length 9⟩, rest.drop ds.length)
  | rest => return (⟨hour, minute, second, 0, 0⟩, rest)

/-- A date with a time of day at the front, and what follows it. -/
def momentOf (cs : List Char) : Except Problem (Instant.Date × Clock × List Char) := do
  if cs.length < 11 then throw .momentForm
  let date ← dateOf (cs.take 10)
  match cs.drop 10 with
  | c :: rest =>
    if c ≠ 'T' && c ≠ ' ' && c ≠ 't' then throw .momentSeparator
    let (clock, rest) ← clockOf rest
    return (date, clock, rest)
  | [] => throw .momentForm

/-- A zone: how many seconds it is ahead. -/
def zoneOf (cs : List Char) : Except Problem Int := do
  match cs with
  | c :: rest =>
    if c = 'Z' || c = 'z' then
      if rest.isEmpty then return 0 else throw .zoneRest
    if cs.length ≠ 6 then throw .zoneForm
    if c ≠ '+' && c ≠ '-' then throw .zoneSign
    if (cs.drop 3).head? ≠ some ':' then throw .zoneColon
    let hours ← digitsOf (rest.take 2)
    if hours > 23 then throw .zoneHours
    let minutes ← digitsOf (cs.drop 4)
    if minutes > 59 then throw .zoneMinutes
    let seconds : Int := (hours * 60 + minutes) * 60
    return if c = '-' then -seconds else seconds
  | [] => throw .zoneForm

def clockText (c : Clock) : String :=
  Instant.padded 2 c.hour ++ ":" ++ Instant.padded 2 c.minute ++ ":" ++ Instant.padded 2 c.second
    ++ (if c.places = 0 then ""
      else "." ++ String.ofList ((Instant.padded 9 c.nanos).toList.take c.places))

/-- How a date or a time of day is shown. -/
def shownMoment (kind : DateKind) (cs : List Char) : Except Problem String := do
  match kind with
  | .date => return Timestamp.dateText (← dateOf cs)
  | .time =>
    let (clock, rest) ← clockOf cs
    if !rest.isEmpty then throw .timeRest
    return clockText clock
  | .unzoned =>
    let (date, clock, rest) ← momentOf cs
    if !rest.isEmpty then throw .momentRest
    return Timestamp.dateText date ++ "T" ++ clockText clock
  | .zoned =>
    let (date, clock, rest) ← momentOf cs
    let offset ← zoneOf rest
    return (⟨date, clock.hour, clock.minute, clock.second, clock.nanos, offset⟩ : Timestamp).text

/-! ## Values -/

mutual

/-- The value of an item. -/
def Item.value : Item → Except Problem SettingValue
  | .text s => .ok (.text s)
  | .switch b => .ok (.switch b)
  | .whole cs => (wholeOf cs).map .whole
  | .real cs => realOf cs
  | .moment kind cs => (shownMoment kind cs).map .moment
  | .array items => do
    checkItems items
    return .compound
  | .table pairs => do
    checkPairs pairs
    return .compound

def checkItems : List Item → Except Problem Unit
  | [] => .ok ()
  | i :: rest => do
    let _ ← i.value
    checkItems rest

def checkPairs : List (List String × Item) → Except Problem Unit
  | [] => .ok ()
  | (_, i) :: rest => do
    let _ ← i.value
    checkPairs rest

end

end GraphWalk.Toml
