import GraphWalk.Json.Basic
import GraphWalk.Text.Bytes
import GraphWalk.Text.Ranges

/-!
# Reading JSON

A recursive descent reader over the characters of a text. `Json.readValue` reads
one value and gives the rest behind it; `Json.parse?` reads a whole text. Every
call uses one unit of fuel, which starts above twice the length of the text.
-/

namespace GraphWalk.Json

/-- Why a text is not a document. -/
inductive SyntaxFault where
  | invalid (c : Char) (context : String)
  /-- An escape of a string, as it is shown. -/
  | badEscape (shown : String)
  | nameRequired
  | unexpectedEnd
  | atEnd
deriving Repr, DecidableEq

def SyntaxFault.message : SyntaxFault → String
  | .invalid c context => "invalid character " ++ Text.quotedChar c ++ " " ++ context
  | .badEscape shown => "invalid escape sequence " ++ shown ++ " in string"
  | .nameRequired => "object member name must be a string"
  | .unexpectedEnd => "unexpected EOF"
  | .atEnd => "EOF"

def isBlank (c : Char) : Bool := c = ' ' || c = '\n' || c = '\t' || c = '\r'

/-- Drops blanks. -/
def skipBlanks (cs : List Char) : List Char := cs.dropWhile isBlank

/-- The fault at the head of `cs`. -/
def faultAt (context : String) : List Char → SyntaxFault
  | [] => .unexpectedEnd
  | c :: _ => .invalid c context

/-- An escape of a number of bytes as it is shown in a message: between back quotes, or
quoted where a character of it could not be seen. -/
def shownEscape (size : Nat) (cs : List Char) : String :=
  let bs := (Text.bytes cs).take size
  let visible := (Text.pieces bs).all fun
    | .inl _ => false
    | .inr c => c ≠ Char.ofNat 96 && c ≠ ' ' && c.toNat ≠ 0xFFFD && Text.isPrintable c
  if visible then String.ofList [Char.ofNat 96] ++ Text.ofBytes bs ++ String.ofList [Char.ofNat 96]
  else Text.quoteBytes bs

/-- Four hexadecimal digits, behind the mark of the escape. -/
def readHex4 (cs : List Char) : Except SyntaxFault (Nat × List Char) :=
  let ds := (cs.take 4).takeWhile fun c => (Text.hexDigit? c).isSome
  if ds.length = 4 then
    .ok (ds.foldl (fun n d => 16 * n + (Text.hexDigit? d).getD 0) 0, cs.drop 4)
  else if ds.length = cs.length then .error .unexpectedEnd
  else .error (.badEscape (shownEscape 6 ('\\' :: 'u' :: cs.take 4)))

/-- The character of a code unit that stands alone; half of a pair is replaced. -/
def loneUnit (n : Nat) : Char :=
  if 0xD800 ≤ n ∧ n < 0xE000 then Char.ofNat 0xFFFD else Char.ofNat n

/-- The character of a short escape. -/
def shortEscape? : Char → Option Char
  | '"' => some '"'
  | '\\' => some '\\'
  | '/' => some '/'
  | 'b' => some '\x08'
  | 'f' => some '\x0c'
  | 'n' => some '\n'
  | 'r' => some '\r'
  | 't' => some '\t'
  | _ => none

/-- The rest of a string literal, behind its opening quote. -/
def readString (fuel : Nat) (cs acc : List Char) : Except SyntaxFault (String × List Char) :=
  match fuel with
  | 0 => .error .unexpectedEnd
  | fuel + 1 =>
    match cs with
    | [] => .error .unexpectedEnd
    | '"' :: rest => .ok (String.ofList acc.reverse, rest)
    | '\\' :: 'u' :: rest => do
      let (n, rest) ← readHex4 rest
      if 0xD800 ≤ n ∧ n < 0xDC00 then
        match rest with
        | '\\' :: 'u' :: low =>
          let (m, rest') ← readHex4 low
          if 0xDC00 ≤ m ∧ m < 0xE000 then
            let c := Char.ofNat (0x10000 + (n - 0xD800) * 0x400 + (m - 0xDC00))
            readString fuel rest' (c :: acc)
          else readString fuel rest (loneUnit n :: acc)
        | _ => readString fuel rest (loneUnit n :: acc)
      else readString fuel rest (loneUnit n :: acc)
    | '\\' :: e :: rest =>
      match shortEscape? e with
      | some c => readString fuel rest (c :: acc)
      | none => .error (.badEscape (shownEscape 2 ['\\', e]))
    | '\\' :: [] => .error .unexpectedEnd
    | c :: rest =>
      if c.toNat < 0x20 then .error (.invalid c "in string")
      else readString fuel rest (c :: acc)

/-- At least one digit of a number. -/
def readDigits (cs : List Char) : Except SyntaxFault (List Char × List Char) :=
  let ds := cs.takeWhile Char.isDigit
  if ds.isEmpty then .error (faultAt "in numeric literal" cs)
  else .ok (ds, cs.dropWhile Char.isDigit)

/-- A number literal: its text and the rest. A leading zero stands alone. -/
def readNumber (cs : List Char) : Except SyntaxFault (String × List Char) := do
  let (sign, body) := match cs with
    | '-' :: rest => (['-'], rest)
    | cs => ([], cs)
  let (whole, rest) ← match body with
    | '0' :: rest => .ok (['0'], rest)
    | body => readDigits body
  let (fraction, rest) ← match rest with
    | '.' :: more => do
      let (ds, rest) ← readDigits more
      pure ('.' :: ds, rest)
    | cs => .ok ([], cs)
  let (exponent, rest) ← match rest with
    | e :: more =>
      if e = 'e' ∨ e = 'E' then do
        let (sign, body) := match more with
          | '+' :: m => (['+'], m)
          | '-' :: m => (['-'], m)
          | m => ([], m)
        let (ds, rest) ← readDigits body
        pure (e :: sign ++ ds, rest)
      else .ok ([], rest)
    | [] => .ok ([], [])
  return (String.ofList (sign ++ whole ++ fraction ++ exponent), rest)

/-- The rest of the word `word`, of which the first letter has been read. -/
def readWord (word : String) : List Char → List Char → Except SyntaxFault (List Char)
  | [], cs => .ok cs
  | w :: ws, c :: cs =>
    if c = w then readWord word ws cs
    else .error (.invalid c ("in literal " ++ word ++ " (expecting '" ++ w.toString ++ "')"))
  | _ :: _, [] => .error .unexpectedEnd

/-- What is to be read: a value, more of an array, or more of an object. -/
inductive Goal where
  | value
  | items (acc : List Json)
  | members (acc : List (String × Json))

/-- Reads towards a goal. -/
def read (fuel : Nat) (goal : Goal) (cs : List Char) :
    Except SyntaxFault (Json × List Char) :=
  match fuel with
  | 0 => .error .unexpectedEnd
  | fuel + 1 =>
    match goal with
    | .value =>
      match skipBlanks cs with
      | [] => .error .unexpectedEnd
      | 'n' :: rest => do return (.null, ← readWord "null" ['u', 'l', 'l'] rest)
      | 't' :: rest => do return (.bool true, ← readWord "true" ['r', 'u', 'e'] rest)
      | 'f' :: rest => do return (.bool false, ← readWord "false" ['a', 'l', 's', 'e'] rest)
      | '"' :: rest => do
        let (s, rest) ← readString (rest.length + 1) rest []
        return (.str s, rest)
      | '[' :: rest =>
        match skipBlanks rest with
        | ']' :: rest => .ok (.arr [], rest)
        | rest => read fuel (.items []) rest
      | '\x7b' :: rest =>
        match skipBlanks rest with
        | '\x7d' :: rest => .ok (.obj [], rest)
        | rest => read fuel (.members []) rest
      | c :: rest =>
        if c = '-' ∨ c.isDigit then do
          let (s, rest) ← readNumber (c :: rest)
          return (.num s, rest)
        else .error (.invalid c "looking for beginning of value")
    | .items acc => do
      let (j, rest) ← read fuel .value cs
      match skipBlanks rest with
      | ',' :: rest => read fuel (.items (j :: acc)) rest
      | ']' :: rest => .ok (.arr (j :: acc).reverse, rest)
      | rest => .error (faultAt "after array element" rest)
    | .members acc =>
      match skipBlanks cs with
      | '"' :: rest => do
        let (k, rest) ← readString (rest.length + 1) rest []
        match skipBlanks rest with
        | ':' :: rest =>
          let (j, rest) ← read fuel .value rest
          match skipBlanks rest with
          | ',' :: rest => read fuel (.members ((k, j) :: acc)) rest
          | '\x7d' :: rest => .ok (.obj ((k, j) :: acc).reverse, rest)
          | rest => .error (faultAt "after object key:value pair" rest)
        | rest => .error (faultAt "after object key" rest)
      | rest => .error (faultAt "looking for beginning of object key string" rest)

/-- Reads one value and gives the rest behind it. -/
def readValue (cs : List Char) : Except SyntaxFault (Json × List Char) :=
  read (2 * cs.length + 2) .value cs

/-- Reads a whole text as one document. -/
def parse? (s : String) : Option Json :=
  match readValue s.toList with
  | .ok (j, rest) => if (skipBlanks rest).isEmpty then some j else none
  | .error _ => none

end GraphWalk.Json
