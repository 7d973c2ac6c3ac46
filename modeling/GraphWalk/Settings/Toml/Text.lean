import GraphWalk.Settings.Toml.Problem
import GraphWalk.Text.Ranges

/-!
# Texts in TOML

A literal text stands between single quotes and is taken as it is; a basic text stands
between double quotes and has escapes. Between three quotes a text may go on over
lines. The end of a text is looked for before its characters are judged.
-/

namespace GraphWalk.Toml

/-- Whether a character may not stand in a document. -/
def isControl (c : Char) : Bool :=
  (c.toNat < 0x20 && c ≠ '\t' && c ≠ '\n' && c ≠ '\r') || c.toNat = 0x7f

/-- Drops a line break at the front. -/
def dropBreak : List Char → List Char
  | '\n' :: rest => rest
  | '\r' :: '\n' :: rest => rest
  | cs => cs

/-! ## Literal texts -/

/-- The rest of a literal text, and what follows it. -/
def readLiteral : List Char → List Char → Except Problem (List Char × List Char)
  | _, [] => .error .literalOpen
  | out, c :: rest =>
    if c = '\'' then .ok (out.reverse, rest)
    else if c = '\n' || c = '\r' then .error .literalNewline
    else if isControl c then .error .literalCharacter
    else readLiteral (c :: out) rest

/-- The quotes behind three closing ones that belong to the text. There are at most
two. -/
def extraQuotes (quote : Char) (fault : Problem) (rest : List Char) :
    Except Problem (List Char × List Char) :=
  let extra := rest.takeWhile (· = quote)
  if extra.length > 2 then .error fault else .ok (extra, rest.drop extra.length)

/-- The rest of a literal text over several lines, and what follows it. -/
def readLiteralLines : Nat → List Char → List Char → Except Problem (List Char × List Char)
  | 0, _, _ => .error .literalLinesOpen
  | fuel + 1, out, cs =>
    match cs with
    | [] => .error .literalLinesOpen
    | '\'' :: '\'' :: '\'' :: rest => do
      let (extra, rest) ← extraQuotes '\'' .literalQuotes rest
      return (out.reverse ++ extra, rest)
    | '\r' :: '\n' :: rest => readLiteralLines fuel ('\n' :: '\r' :: out) rest
    | '\r' :: _ => .error .lineFeedExpected
    | c :: rest =>
      if isControl c then .error .literalCharacter else readLiteralLines fuel (c :: out) rest

/-! ## Basic texts -/

/-- The characters of a basic text up to its closing quote, whether there are escapes
among them, and what follows. -/
def scanBasic : Nat → Bool → List Char → List Char → Except Problem (List Char × Bool × List Char)
  | 0, _, _, _ => .error .basicOpen
  | fuel + 1, escaped, out, cs =>
    match cs with
    | [] => .error .basicOpen
    | '"' :: rest => .ok (out.reverse, escaped, rest)
    | ['\\'] => .error .backslashAtEnd
    | '\\' :: c :: rest => scanBasic fuel true (c :: '\\' :: out) rest
    | c :: rest =>
      if c = '\n' || c = '\r' then .error .basicNewline
      else scanBasic fuel escaped (c :: out) rest

/-- The same for a text over several lines. -/
def scanBasicLines :
    Nat → Bool → List Char → List Char → Except Problem (List Char × Bool × List Char)
  | 0, _, _, _ => .error .basicLinesOpen
  | fuel + 1, escaped, out, cs =>
    match cs with
    | [] => .error .basicLinesOpen
    | '"' :: '"' :: '"' :: rest => do
      let (extra, rest) ← extraQuotes '"' .basicQuotes rest
      return (out.reverse ++ extra, escaped, rest)
    | ['\\'] => .error .backslashAtEnd
    | '\\' :: c :: rest => scanBasicLines fuel true (c :: '\\' :: out) rest
    | '\r' :: '\n' :: rest => scanBasicLines fuel escaped ('\n' :: '\r' :: out) rest
    | '\r' :: _ => .error .lineFeedExpected
    | c :: rest => scanBasicLines fuel escaped (c :: out) rest

/-- The character of a short escape. -/
def shortEscape? : Char → Option Char
  | '"' => some '"'
  | '\\' => some '\\'
  | 'b' => some '\x08'
  | 'f' => some '\x0c'
  | 'n' => some '\n'
  | 'r' => some '\r'
  | 't' => some '\t'
  | 'e' => some '\x1b'
  | _ => none

/-- The character of a number of hexadecimal digits, of which `closing` more
characters are counted behind the text. -/
def readCode (width closing : Nat) (cs : List Char) : Except Problem (Char × List Char) :=
  let given := (Text.bytes cs).length + closing
  if given < width then .error (.codeTooShort width given)
  else match (cs.take width).mapM Text.hexDigit? with
    | none => .error .codeDigit
    | some ds =>
      let n := ds.foldl (fun n d => 16 * n + d) 0
      if ds.length < width then .error .codeDigit
      else if n > 0x10FFFF || (0xD800 ≤ n && n < 0xE000) then .error .codeRange
      else .ok (Char.ofNat n, cs.drop width)

/-- Reads an escape behind its backslash. -/
def readEscape (closing : Nat) (c : Char) (rest : List Char) : Except Problem (Char × List Char) :=
  match shortEscape? c with
  | some x => .ok (x, rest)
  | none =>
    if c = 'u' then readCode 4 closing rest
    else if c = 'U' then readCode 8 closing rest
    else .error (.escape c)

/-- Whether nothing but blanks follows up to the end of the line. -/
def endsLine : List Char → Bool
  | '\n' :: _ => true
  | '\r' :: '\n' :: _ => true
  | c :: rest => (c = ' ' || c = '\t') && endsLine rest
  | [] => false

def isLineBlank (c : Char) : Bool := c = '\n' || c = '\r' || c = ' ' || c = '\t'

/-- Replaces escapes. In a text over several `lines`, a backslash at the end of a line
drops all blanks up to the next character. -/
def unescape (lines : Bool) : Nat → List Char → List Char → Except Problem (List Char)
  | 0, out, _ => .ok out.reverse
  | fuel + 1, out, cs =>
    match cs with
    | [] => .ok out.reverse
    | '\\' :: rest =>
      if lines && endsLine rest then unescape lines fuel out (rest.dropWhile isLineBlank)
      else match rest with
        | [] => .ok out.reverse
        | c :: rest => do
          let (x, rest) ← readEscape (if lines then 3 else 0) c rest
          unescape lines fuel (x :: out) rest
    | c :: rest =>
      if isControl c then .error (.textCharacter c) else unescape lines fuel (c :: out) rest

/-- Judges the characters of a basic text. -/
def basicText (lines escaped : Bool) (cs : List Char) : Except Problem String :=
  if escaped then (unescape lines (cs.length + 1) [] cs).map String.ofList
  else if cs.any isControl then .error .unreadableText
  else .ok (String.ofList cs)

/-! ## Quotes -/

/-- A text on one line at the front, and what follows it. -/
def readLine (cs : List Char) : Option (Except Problem (String × List Char)) :=
  match cs with
  | '\'' :: rest => some (do
    let (out, rest) ← readLiteral [] rest
    return (String.ofList out, rest))
  | '"' :: rest => some (do
    let (out, escaped, rest) ← scanBasic (rest.length + 1) false [] rest
    return (← basicText false escaped out, rest))
  | _ => none

/-- A text at the front, and what follows it. -/
def readText (cs : List Char) : Option (Except Problem (String × List Char)) :=
  match cs with
  | '\'' :: '\'' :: '\'' :: rest => some (do
    let (out, rest) ← readLiteralLines (rest.length + 1) [] (dropBreak rest)
    return (String.ofList out, rest))
  | '"' :: '"' :: '"' :: rest => some (do
    let (out, escaped, rest) ← scanBasicLines (rest.length + 1) false [] (dropBreak rest)
    return (← basicText true escaped out, rest))
  | cs => readLine cs

end GraphWalk.Toml
