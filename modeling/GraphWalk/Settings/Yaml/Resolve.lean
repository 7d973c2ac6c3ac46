import GraphWalk.Settings.Value
import GraphWalk.Settings.Yaml.Fault
import GraphWalk.Text.Bytes

/-!
# What a plain text means

A plain text is a switch, nothing, a number, a date or just a text, as its first
character and its form tell. A tag can demand one of these; any other tag leaves the
text as it is.
-/

namespace GraphWalk.Yaml

/-- The common start of the tags that are written with two exclamation marks. -/
def commonLead : String := "tag:yaml.org,2002:"

/-- A tag in its short form. -/
def shortTag (tag : String) : String :=
  if tag.startsWith commonLead then "!!" ++ (tag.drop commonLead.length).toString else tag

/-! ## Dates -/

/-- A date with short numbers. -/
def takeDate (cs : List Char) : Option (Instant.Date × List Char) := do
  let (year, cs) ← Instant.takeDigits 4 cs
  let cs ← Instant.takeChar '-' cs
  let (month, cs) ← Instant.takeShort cs
  let cs ← Instant.takeChar '-' cs
  let (day, cs) ← Instant.takeShort cs
  return (⟨year, month, day⟩, cs)

/-- A date with a time of day behind it. -/
def takeTime (date : Instant.Date) (cs : List Char) : Option (Timestamp × List Char) := do
  let (hour, cs) ← Instant.takeShort cs
  let cs ← Instant.takeChar ':' cs
  let (minute, cs) ← Instant.takeShort cs
  let cs ← Instant.takeChar ':' cs
  let (second, cs) ← Instant.takeShort cs
  let (nanos, cs) := Instant.takeFraction cs
  if hour > 23 || minute > 59 || second > 59 then none
  else some (⟨date, hour, minute, second, nanos, 0⟩, cs)

/-- Reads a date alone, with a time of day behind a blank, or with a time of day and a
zone behind a `T`. -/
def readTimestamp? (s : String) : Option Timestamp := do
  let (date, cs) ← takeDate s.toList
  if !Timestamp.isDate date then none
  match cs with
  | [] => some ⟨date, 0, 0, 0, 0, 0⟩
  | x :: rest =>
    if x = ' ' then
      let (m, cs) ← takeTime date (rest.dropWhile (· = ' '))
      if cs.isEmpty then some m else none
    else if x = 'T' || x = 't' then
      let (m, cs) ← takeTime date rest
      let (offset, cs) ← Instant.takeZone cs
      if cs.isEmpty then some { m with offset } else none
    else none

/-! ## Numbers -/

/-- Whether every underscore stands between two digits. -/
def underscoresInside : List Char → Bool
  | [] => true
  | '_' :: _ => false
  | x :: '_' :: y :: rest => x.isDigit && y.isDigit && underscoresInside (y :: rest)
  | [_, '_'] => false
  | _ :: rest => underscoresInside rest

/-- The digits behind the mark of a base, with a sign in front of the mark or behind
it. -/
def readMarked? (base : Nat) (mark : Char) (cs : List Char) : Option Int :=
  match cs with
  | '0' :: m :: rest =>
    if m = mark then (Whole.readIn base (String.ofList rest)).toOption else none
  | '-' :: '0' :: m :: rest =>
    if m = mark then (Whole.readIn base (String.ofList ('-' :: rest))).toOption else none
  | _ => none

/-- The value of digits, which may be grouped by underscores. -/
def numberOf (s : String) : Option (String × SettingValue) :=
  let cs := s.toList.filter (· ≠ '_')
  let plain := String.ofList cs
  match Whole.read plain, Whole.readUnsigned plain with
  | .ok n, _ => some ("!!int", .whole n)
  | .error _, .ok n => some ("!!int", .whole n)
  | .error _, .error _ =>
    match (if Number.isDecimal cs then Number.Double.read? plain else none) with
    | some d => some ("!!float", .real d)
    | none =>
      ((readMarked? 2 'b' cs).orElse fun _ => readMarked? 8 'o' cs).map fun n =>
        ("!!int", .whole n)

/-! ## Words -/

/-- The words that mean something. -/
def wordOf (s : String) : Option (String × Option SettingValue) :=
  if ["true", "True", "TRUE"].contains s then some ("!!bool", some (.switch true))
  else if ["false", "False", "FALSE"].contains s then some ("!!bool", some (.switch false))
  else if ["", "~", "null", "Null", "NULL"].contains s then some ("!!null", none)
  else if [".nan", ".NaN", ".NAN"].contains s then some ("!!float", some .notNumber)
  else if [".inf", ".Inf", ".INF", "+.inf", "+.Inf", "+.INF"].contains s then
    some ("!!float", some (.infinite false))
  else if ["-.inf", "-.Inf", "-.INF"].contains s then some ("!!float", some (.infinite true))
  else none

/-- The tag and the value that the form of a text suggests. `dates` says whether it may
be a date. -/
def guess (dates : Bool) (s : String) : String × Option SettingValue :=
  let found : Option (String × Option SettingValue) := (wordOf s).orElse fun _ =>
    match s.toList with
    | [] => none
    | x :: rest =>
      if x = '.' then
        let digits := (x :: rest).filter (· ≠ '_')
        if underscoresInside (x :: rest) && Number.isDecimal digits then
          (Number.Double.read? (String.ofList digits)).map fun d => ("!!float", some (.real d))
        else none
      else if x.isDigit || x = '+' || x = '-' then
        match (if dates then readTimestamp? s else none) with
        | some m => some ("!!timestamp", some (.moment m.text))
        | none => (numberOf s).map fun (tag, v) => (tag, some v)
      else none
  found.getD ("!!str", some (.text s))

/-! ## Tags -/

/-- The tags that demand a kind of value. -/
def isDemand (tag : String) : Bool :=
  ["", "!!str", "!!bool", "!!int", "!!float", "!!null", "!!timestamp"].contains tag

/-- A whole number with 53 bits. -/
def realOf (n : Int) : SettingValue :=
  match Number.Double.read? (toString n) with
  | some d => .real d
  | none => .whole n

/-- The tag and the value of a text under a tag. -/
def resolve (tag text : String) : Except Problem (String × Option SettingValue) :=
  let tag := shortTag tag
  if !isDemand tag || tag = "!!str" then .ok (tag, some (.text text))
  else
    let (found, v) := guess (tag = "" || tag = "!!timestamp") text
    if tag = "" || found = tag then .ok (found, v)
    else match v with
      | some (.whole n) =>
        if tag = "!!float" && n < Whole.least then .ok (tag, some (realOf n))
        else .error (.notOfTag found text tag)
      | _ => .error (.notOfTag found text tag)

/-! ## Bytes as text -/

/-- The value of a character of base 64. -/
def sextet? (c : Char) : Option Nat :=
  if 'A' ≤ c ∧ c ≤ 'Z' then some (c.toNat - 'A'.toNat)
  else if 'a' ≤ c ∧ c ≤ 'z' then some (c.toNat - 'a'.toNat + 26)
  else if c.isDigit then some (c.toNat - '0'.toNat + 52)
  else if c = '+' then some 62
  else if c = '/' then some 63
  else none

/-- The bytes of four characters at a time; equals signs fill up the last four. -/
def bytesOf : List Char → Option (List UInt8)
  | [] => some []
  | [a, b, '=', '='] => do
    let n := (← sextet? a) * 64 + (← sextet? b)
    return [(n / 16).toUInt8]
  | [a, b, c, '='] => do
    let n := ((← sextet? a) * 64 + (← sextet? b)) * 64 + (← sextet? c)
    return [(n / 1024).toUInt8, (n / 4).toUInt8]
  | a :: b :: c :: d :: rest => do
    let n := (((← sextet? a) * 64 + (← sextet? b)) * 64 + (← sextet? c)) * 64 + (← sextet? d)
    let more ← bytesOf rest
    return (n / 65536).toUInt8 :: (n / 256).toUInt8 :: n.toUInt8 :: more
  | _ => none

/-- The text that base 64 stands for. -/
def decodeBinary (text : String) : Except Problem String :=
  match bytesOf (text.toList.filter fun c => c ≠ '\r' && c ≠ '\n') with
  | some bs => .ok (Text.ofBytes bs)
  | none => .error .base64

end GraphWalk.Yaml
