import GraphWalk.Settings.Toml.Text

/-!
# Items of a TOML document

A document is a row of lines: pairs of a key and a value, and headers of tables.
Numbers and dates are only told apart here; what they mean is decided later.
-/

namespace GraphWalk.Toml

inductive DateKind where
  | date
  | time
  | unzoned
  | zoned
deriving Repr, DecidableEq, Inhabited

/-- A value as it is written. -/
inductive Item where
  | text (s : String)
  | switch (b : Bool)
  | whole (digits : List Char)
  | real (digits : List Char)
  | moment (kind : DateKind) (digits : List Char)
  | array (items : List Item)
  | table (pairs : List (List String × Item))
deriving Inhabited

inductive Line where
  | pair (key : List String) (value : Item)
  | table (key : List String)
  | arrayTable (key : List String)
deriving Inhabited

def dropBlanks (cs : List Char) : List Char := cs.dropWhile fun c => c = ' ' || c = '\t'

/-- Passes over a character that has to follow. -/
def expect (x : Char) : List Char → Except Problem (List Char)
  | [] => .error (.expectedAtEnd x)
  | c :: rest => if c = x then .ok rest else .error (.expected x)

/-- Passes over a line break. -/
def readBreak : List Char → Except Problem (List Char)
  | [] => .ok []
  | '\n' :: rest => .ok rest
  | ['\r'] => .error .returnAtEnd
  | '\r' :: '\n' :: rest => .ok rest
  | '\r' :: _ => .error .returnAlone
  | c :: _ => .error (.newlineExpected c)

/-- Passes over the rest of a comment. -/
def skipComment : List Char → Except Problem (List Char)
  | [] => .ok []
  | '\n' :: rest => .ok ('\n' :: rest)
  | '\r' :: '\n' :: rest => .ok ('\n' :: rest)
  | c :: rest => if c = '\r' || isControl c then .error .commentCharacter else skipComment rest

/-- Passes over blanks, comments and line breaks. -/
def skipLines : Nat → List Char → Except Problem (List Char)
  | 0, cs => .ok cs
  | fuel + 1, cs => do
    let cs := dropBlanks cs
    let cs ← match cs with
      | '#' :: rest => skipComment rest
      | _ => pure cs
    match cs with
    | [] => return []
    | c :: _ => if c = '\n' || c = '\r' then skipLines fuel (← readBreak cs) else return cs

/-! ## Keys -/

def isKeyChar (c : Char) : Bool := c.isAlphanum || c = '-' || c = '_'

def readKeyPart (cs : List Char) : Except Problem (String × List Char) :=
  match readLine cs with
  | some r => r
  | none => match cs with
    | [] => .error .keyMissing
    | c :: _ =>
      if isKeyChar c then .ok (String.ofList (cs.takeWhile isKeyChar), cs.dropWhile isKeyChar)
      else .error (.keyStart c)

/-- The parts of a key, which points divide. -/
def readKey : Nat → List Char → Except Problem (List String × List Char)
  | 0, _ => .error .keyMissing
  | fuel + 1, cs => do
    let (part, cs) ← readKeyPart cs
    match dropBlanks cs with
    | '.' :: rest => do
      let (more, cs) ← readKey fuel (dropBlanks rest)
      return (part :: more, cs)
    | cs => return ([part], cs)

/-! ## Numbers and dates -/

/-- Whether a text starts with a word. -/
def hasWord (w : String) (cs : List Char) : Bool := cs.take w.length = w.toList

/-- The digits of a number in a base that is marked by a letter. -/
def isBaseDigit (mark c : Char) : Bool :=
  c = '_' || (match mark with
    | 'x' => c.isDigit || ('a' ≤ c && c ≤ 'f') || ('A' ≤ c && c ≤ 'F')
    | 'o' => '0' ≤ c && c ≤ '7'
    | _ => c = '0' || c = '1')

/-- The characters of a decimal number, whether they make a real one, and what
follows. -/
def readDecimal (real : Bool) (out : List Char) : List Char → Except Problem (Item × List Char)
  | [] => finish real out []
  | c :: rest =>
    if c.isDigit || c = '+' || c = '-' || c = '_' then readDecimal real (c :: out) rest
    else if c = '.' || c = 'e' || c = 'E' then readDecimal true (c :: out) rest
    else if c = 'i' then
      if hasWord "inf" (c :: rest) then .ok (.real (out.reverse ++ ['i', 'n', 'f']), rest.drop 2)
      else .error (.letterInNumber c)
    else if c = 'n' then
      if hasWord "nan" (c :: rest) then .ok (.real (out.reverse ++ ['n', 'a', 'n']), rest.drop 2)
      else .error (.letterInNumber c)
    else finish real out (c :: rest)
where
  finish (real : Bool) (out rest : List Char) : Except Problem (Item × List Char) :=
    if out.isEmpty then .error .numberMissing
    else .ok (if real then .real out.reverse else .whole out.reverse, rest)

/-- A number. A zero in front of another character than a point or an exponent stands
alone or starts the mark of a base. -/
def readNumber (cs : List Char) : Except Problem (Item × List Char) :=
  match cs with
  | '0' :: m :: rest =>
    if (Text.bytes (cs.take 3)).length ≤ 2 || m = '.' || m = 'e' || m = 'E' then
      readDecimal false [] cs
    else if m = 'x' || m = 'o' || m = 'b' then
      let ds := rest.takeWhile (isBaseDigit m)
      .ok (.whole ('0' :: m :: ds), rest.drop ds.length)
    else .ok (.whole ['0'], m :: rest)
  | _ => readDecimal false [] cs

/-- What is seen of a date. -/
structure DateScan where
  hasDate : Bool
  hasTime : Bool
  hasZone : Bool
  spaced : Bool
  out : List Char

/-- The characters of a date or a time of day. One blank may stand in front of a
digit. -/
def scanDate : Nat → DateScan → List Char → DateScan × List Char
  | 0, d, cs => (d, cs)
  | fuel + 1, d, cs =>
    match cs with
    | [] => (d, [])
    | c :: rest =>
      let go := fun (d : DateScan) => scanDate fuel { d with out := c :: d.out } rest
      if c.isDigit then go d
      else if c = '-' then go { d with hasDate := true, hasZone := d.hasZone || d.out.length ≥ 8 }
      else if c = 'T' || c = 't' || c = ':' || c = '.' then go { d with hasTime := true }
      else if c = '+' || c = 'Z' || c = 'z' then go { d with hasZone := true }
      else if c = ' ' && !d.spaced && (rest.head?.map Char.isDigit).getD false then
        let passed := c :: rest.take 2
        scanDate fuel { d with spaced := true, hasTime := true, out := passed.reverse ++ d.out }
          (rest.drop 2)
      else (d, cs)

/-- A date or a time of day. -/
def readDate (cs : List Char) : Item × List Char :=
  let (d, rest) := scanDate (cs.length + 1) ⟨false, false, false, false, []⟩ cs
  let kind :=
    if !d.hasTime then DateKind.date
    else if !d.hasDate then .time
    else if d.hasZone then .zoned
    else .unzoned
  (.moment kind d.out.reverse, rest)

/-- Whether a text starts like a date or a time of day. -/
def startsDate (cs : List Char) : Bool :=
  let ds := (cs.take 5).takeWhile Char.isDigit
  (ds.length = 2 && (cs.drop 2).head? = some ':') || (ds.length = 4 && (cs.drop 4).head? = some '-')

def readFigure (cs : List Char) : Except Problem (Item × List Char) :=
  match cs with
  | 'i' :: _ =>
    if hasWord "inf" cs then .ok (.real (cs.take 3), cs.drop 3) else .error (.word "inf")
  | 'n' :: _ =>
    if hasWord "nan" cs then .ok (.real (cs.take 3), cs.drop 3) else .error (.word "nan")
  | '+' :: _ | '-' :: _ => readNumber cs
  | _ =>
    if (Text.bytes (cs.take 3)).length ≥ 3 && startsDate cs then .ok (readDate cs)
    else readNumber cs

/-! ## Values -/

mutual

def readItem (fuel : Nat) (cs : List Char) : Except Problem (Item × List Char) :=
  match fuel with
  | 0 => .error .valueMissing
  | fuel + 1 =>
    match readText cs with
    | some r => r.map fun (s, rest) => (.text s, rest)
    | none => match cs with
      | [] => .error .valueMissing
      | 't' :: _ =>
        if hasWord "true" cs then .ok (.switch true, cs.drop 4) else .error (.word "true")
      | 'f' :: _ =>
        if hasWord "false" cs then .ok (.switch false, cs.drop 5) else .error (.word "false")
      | '[' :: rest => do
        let (items, rest) ← readArray fuel true [] rest
        return (.array items, rest)
      | '\x7b' :: rest => do
        let (pairs, rest) ← readTable fuel true [] rest
        return (.table pairs, rest)
      | cs => readFigure cs

/-- The rest of an array. -/
def readArray (fuel : Nat) (first : Bool) (out : List Item) (cs : List Char) :
    Except Problem (List Item × List Char) :=
  match fuel with
  | 0 => .error .arrayOpen
  | fuel + 1 =>
    if cs.isEmpty then .error (.expectedAtEnd ']')
    else do
      let cs ← skipLines (cs.length + 1) cs
      match cs with
      | [] => throw .arrayOpen
      | ']' :: rest => return (out.reverse, rest)
      | c :: rest => do
        if c = ',' && first then throw .arrayComma
        if c ≠ ',' && !first then throw .arraySeparator
        let cs ← if c = ',' then skipLines (rest.length + 1) rest else pure cs
        match cs with
        | ']' :: rest => return (out.reverse, rest)
        | _ => do
          let (item, cs) ← readItem fuel cs
          let cs ← skipLines (cs.length + 1) cs
          readArray fuel false (item :: out) cs

/-- The rest of a table in braces. -/
def readTable (fuel : Nat) (first : Bool) (out : List (List String × Item)) (cs : List Char) :
    Except Problem (List (List String × Item) × List Char) :=
  match fuel with
  | 0 => .error .tableOpen
  | fuel + 1 =>
    if cs.isEmpty then .error (.expectedAtEnd '\x7d')
    else match dropBlanks cs with
      | [] => .error .tableOpen
      | '\x7d' :: rest => .ok (out.reverse, rest)
      | cs => do
        let cs ← if first then pure cs else do pure (dropBlanks (← expect ',' cs))
        let (pair, cs) ← readPair fuel cs
        readTable fuel false (pair :: out) cs

def readPair (fuel : Nat) (cs : List Char) : Except Problem ((List String × Item) × List Char) :=
  match fuel with
  | 0 => .error .keyMissing
  | fuel + 1 => do
    let (key, cs) ← readKey (cs.length + 1) cs
    let cs := dropBlanks cs
    if cs.isEmpty then throw .documentEndsAfterKey
    let cs ← expect '=' cs
    let (item, cs) ← readItem fuel (dropBlanks cs)
    return ((key, item), cs)

end

/-! ## Lines -/

/-- The header of a table. -/
def readHeader (cs : List Char) : Except Problem (Line × List Char) := do
  match cs with
  | '[' :: '[' :: rest =>
    let (key, cs) ← readKey (rest.length + 1) (dropBlanks rest)
    let cs ← expect ']' (← expect ']' (dropBlanks cs))
    return (.arrayTable key, cs)
  | cs =>
    let (key, cs) ← readKey (cs.length + 1) (dropBlanks (cs.drop 1))
    return (.table key, ← expect ']' (dropBlanks cs))

/-- One line, up to its break: what it says, if anything, and what follows. -/
def readLineOf (cs : List Char) : Except Problem (Option Line × List Char) := do
  let cs := dropBlanks cs
  match cs with
  | [] => return (none, [])
  | '#' :: rest => return (none, ← skipComment rest)
  | c :: _ =>
    if c = '\n' || c = '\r' then return (none, cs)
    let (line, cs) ← if c = '[' then readHeader cs else do
      let ((key, item), cs) ← readPair (2 * cs.length + 4) cs
      pure (.pair key item, cs)
    match dropBlanks cs with
    | '#' :: rest => return (some line, ← skipComment rest)
    | cs => return (some line, cs)

end GraphWalk.Toml
