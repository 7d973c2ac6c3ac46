import GraphWalk.Source.Token
import GraphWalk.Text.Split
import GraphWalk.Text.Identifier

/-!
# Reading tokens

`scan` cuts a source text into tokens, or fails if some piece of it is none.
Texts in quotes and texts over several lines hold code again, between
interpolation marks; the surroundings of the current place are kept as a list
(`Surrounding`), the innermost first.
-/

namespace GraphWalk.Source

/-- What surrounds a place in the text. -/
inductive Surrounding where
  /-- Code, with as many open braces. -/
  | code (braces : Nat)
  | quoted
  /-- A text over several lines that ends at the marker; `fresh` at the start of
  a line. -/
  | lines (marker : List Char) (fresh : Bool)
deriving Repr, DecidableEq, Inhabited

/-- The rest behind a given beginning. -/
def strip? : List Char → List Char → Option (List Char)
  | [], rest => some rest
  | a :: as, b :: bs => if a = b then strip? as bs else none
  | _ :: _, [] => none

def isDigit (c : Char) : Bool := '0' ≤ c && c ≤ '9'

def isNameStart (c : Char) : Bool := c = '_' || Text.isIdStart c

def isNamePart (c : Char) : Bool := c = '-' || Text.isIdContinue c

/-- The characters of a number behind its first digit: digits, points, and
exponents that have a digit. -/
def numberTail : List Char → List Char
  | [] => []
  | 'e' :: '+' :: d :: rest | 'e' :: '-' :: d :: rest
  | 'E' :: '+' :: d :: rest | 'E' :: '-' :: d :: rest =>
    if isDigit d then 'e' :: '+' :: d :: numberTail rest else []
  | c :: rest =>
    if isDigit c || c = '.' then c :: numberTail rest
    else if c = 'e' || c = 'E' then
      match rest with
      | d :: _ => if isDigit d then c :: numberTail rest else []
      | [] => []
    else []

/-- The length of the number at the front, which does not end in a point. -/
def numberLength (cs : List Char) : Nat :=
  1 + (((numberTail (cs.drop 1)).reverse.dropWhile (· = '.')).length)

/-- The text of a comment to the end of the line, with the line break. -/
def lineComment : List Char → List Char
  | [] => []
  | '\n' :: _ => ['\n']
  | c :: rest => c :: lineComment rest

/-- The text of a comment up to its end mark; none if there is no end. -/
def blockComment? : List Char → Option (List Char)
  | [] => none
  | '*' :: '/' :: _ => some ['*', '/']
  | c :: rest => (blockComment? rest).map (c :: ·)

/-- A line break at the front. -/
def lineBreak? : List Char → Option (List Char)
  | '\n' :: _ => some ['\n']
  | '\r' :: '\n' :: _ => some ['\r', '\n']
  | _ => none

/-- The value of hexadecimal digits. -/
def hexValue? (ds : List Char) : Option Nat :=
  ds.foldl (fun acc d => do return 16 * (← acc) + (← Text.hexDigit? d)) (some 0)

/-- The character with the given code, if it is one. -/
def charOf? (n : Nat) : Option Char := if h : n.isValidChar then some (Char.ofNatAux n h) else none

/-- Decodes a literal piece without escapes: a doubled interpolation mark stands for
the mark. -/
def decodeMarks : List Char → List Char
  | [] => []
  | '$' :: '$' :: '\x7b' :: rest => '$' :: '\x7b' :: decodeMarks rest
  | '%' :: '%' :: '\x7b' :: rest => '%' :: '\x7b' :: decodeMarks rest
  | c :: rest => c :: decodeMarks rest

/-- Decodes a literal piece with escapes, which start with a backslash; a doubled
interpolation mark stands for the mark. -/
def decodeEscapes? : List Char → Option (List Char)
  | [] => some []
  | '$' :: '$' :: '\x7b' :: rest => (decodeEscapes? rest).map ('$' :: '\x7b' :: ·)
  | '%' :: '%' :: '\x7b' :: rest => (decodeEscapes? rest).map ('%' :: '\x7b' :: ·)
  | '\\' :: rest =>
    match rest with
    | 'n' :: rest => (decodeEscapes? rest).map ('\n' :: ·)
    | 'r' :: rest => (decodeEscapes? rest).map ('\r' :: ·)
    | 't' :: rest => (decodeEscapes? rest).map ('\t' :: ·)
    | '"' :: rest => (decodeEscapes? rest).map ('"' :: ·)
    | '\\' :: rest => (decodeEscapes? rest).map ('\\' :: ·)
    | 'u' :: a :: b :: c :: d :: rest => do
      let x ← charOf? (← hexValue? [a, b, c, d])
      return x :: (← decodeEscapes? rest)
    | 'U' :: a :: b :: c :: d :: e :: f :: g :: h :: rest => do
      let x ← charOf? (← hexValue? [a, b, c, d, e, f, g, h])
      return x :: (← decodeEscapes? rest)
    | _ => none
  | c :: rest => (decodeEscapes? rest).map (c :: ·)

/-- The literal piece at the front of a quoted text: up to its end, an
interpolation or the end of the line. -/
def quotedPiece : List Char → List Char
  | [] => []
  | '"' :: _ | '\n' :: _ | '\r' :: _ | '$' :: '\x7b' :: _ | '%' :: '\x7b' :: _ => []
  | '$' :: '$' :: '\x7b' :: rest => '$' :: '$' :: '\x7b' :: quotedPiece rest
  | '%' :: '%' :: '\x7b' :: rest => '%' :: '%' :: '\x7b' :: quotedPiece rest
  | '\\' :: c :: rest => if c = '\n' || c = '\r' then ['\\'] else '\\' :: c :: quotedPiece rest
  | c :: rest => c :: quotedPiece rest

/-- The literal piece at the front of a text over several lines: up to an
interpolation, or to the end of the line with its line break. -/
def linePiece : List Char → List Char
  | [] => []
  | '\n' :: _ => ['\n']
  | '\r' :: '\n' :: _ => ['\r', '\n']
  | '\r' :: _ | '$' :: '\x7b' :: _ | '%' :: '\x7b' :: _ => []
  | '$' :: '$' :: '\x7b' :: rest => '$' :: '$' :: '\x7b' :: linePiece rest
  | '%' :: '%' :: '\x7b' :: rest => '%' :: '%' :: '\x7b' :: linePiece rest
  | c :: rest => c :: linePiece rest

/-- The head of a text over several lines: its characters, whether it is flush,
and the marker. -/
def linesHead? (cs : List Char) : Option (List Char × Bool × List Char) := do
  let rest ← strip? ['<', '<'] cs
  let (flush, rest) := match rest with
    | '-' :: rest => (true, rest)
    | rest => (false, rest)
  match rest with
  | [] => none
  | c :: more =>
    if isNameStart c then
      let marker := c :: more.takeWhile isNamePart
      let br ← lineBreak? (rest.drop marker.length)
      return (cs.take (2 + (if flush then 1 else 0) + marker.length + br.length), flush, marker)
    else none

/-- What stands at the front of the text: how long it is, the lexemes it makes,
each with its length, and the surroundings behind it. -/
structure Found where
  lexemes : List (Option Lexeme × Nat)
  around : List Surrounding

/-- Marks that open code inside a text. -/
def sequenceStart? : List Char → Option (Lexeme × Nat)
  | '$' :: '\x7b' :: '~' :: _ => some (.interpolation true, 3)
  | '$' :: '\x7b' :: _ => some (.interpolation false, 2)
  | '%' :: '\x7b' :: '~' :: _ => some (.directive true, 3)
  | '%' :: '\x7b' :: _ => some (.directive false, 2)
  | _ => none

/-- A mark at the front, the longest first. -/
def mark? (cs : List Char) : Option (Mark × Nat) :=
  (Mark.spellings.find? fun (spelling, _) => (strip? spelling cs).isSome).map
    fun (spelling, m) => (m, spelling.length)

/-- Reads code. -/
def findCode (braces : Nat) (outer : List Surrounding) (cs : List Char) : Option Found :=
  let here := Surrounding.code braces :: outer
  let one (l : Option Lexeme) (n : Nat) : Option Found := some ⟨[(l, n)], here⟩
  match cs with
  | [] => none
  | ' ' :: _ | '\t' :: _ => one none (cs.takeWhile fun c => c = ' ' || c = '\t').length
  | '\n' :: _ => one (some .newline) 1
  | '\r' :: '\n' :: _ => one (some .newline) 2
  | '#' :: _ =>
    let text := lineComment cs
    one (if text.getLast? = some '\n' then some .newline else none) text.length
  | '/' :: '/' :: _ =>
    let text := lineComment cs
    one (if text.getLast? = some '\n' then some .newline else none) text.length
  | '/' :: '*' :: rest => (blockComment? rest).bind fun text => one none (text.length + 2)
  | '"' :: _ => some ⟨[(some .quoteOpen, 1)], .quoted :: here⟩
  | '~' :: '\x7d' :: _ =>
    if braces = 0 && !outer.isEmpty then some ⟨[(some (.sequenceEnd true), 2)], outer⟩ else none
  | '\x7d' :: _ =>
    if braces = 0 && !outer.isEmpty then some ⟨[(some (.sequenceEnd false), 1)], outer⟩
    else some ⟨[(some (.mark .braceClose), 1)], .code (braces - 1) :: outer⟩
  | '\x7b' :: _ => some ⟨[(some (.mark .braceOpen), 1)], .code (braces + 1) :: outer⟩
  | c :: rest =>
    if isDigit c then
      let n := numberLength cs
      one (some (.number (String.ofList (cs.take n)))) n
    else if isNameStart c then
      let text := c :: rest.takeWhile isNamePart
      one (some (.name (String.ofList text))) text.length
    else match linesHead? cs with
      | some (text, flush, marker) =>
        some ⟨[(some (.linesOpen flush), text.length)], .lines marker true :: here⟩
      | none => (mark? cs).bind fun (m, n) => one (some (.mark m)) n

/-- Reads inside a quoted text. -/
def findQuoted (outer : List Surrounding) (cs : List Char) : Option Found :=
  match cs with
  | '"' :: _ => some ⟨[(some .quoteClose, 1)], outer⟩
  | _ => match sequenceStart? cs with
    | some (l, n) => some ⟨[(some l, n)], .code 0 :: .quoted :: outer⟩
    | none =>
      let text := quotedPiece cs
      if text.isEmpty then none
      else (decodeEscapes? text).map fun s =>
        ⟨[(some (.piece (String.ofList s)), text.length)], .quoted :: outer⟩

/-- Reads inside a text over several lines. A line that holds the marker alone
ends it; its line break counts as one of the code around. -/
def findLines (marker : List Char) (fresh : Bool) (outer : List Surrounding) (cs : List Char) :
    Option Found :=
  match sequenceStart? cs with
  | some (l, n) => some ⟨[(some l, n)], .code 0 :: .lines marker false :: outer⟩
  | none =>
    let text := linePiece cs
    let ends := text.getLast? = some '\n'
    if text.isEmpty then none
    else if ends && fresh && Text.trim (String.ofList text) = String.ofList marker then
      let br := if text.dropLast.getLast? = some '\r' then 2 else 1
      some ⟨[(some .linesClose, text.length - br), (some .newline, br)], outer⟩
    else
      let s := String.ofList (decodeMarks text)
      some ⟨[(some (.piece s), text.length)], .lines marker ends :: outer⟩

/-- Reads what stands at the front. -/
def find (around : List Surrounding) (cs : List Char) : Option Found :=
  match around with
  | [] => findCode 0 [] cs
  | .code braces :: outer => findCode braces outer cs
  | .quoted :: outer => findQuoted outer cs
  | .lines marker fresh :: outer => findLines marker fresh outer cs

/-- Places lexemes in the text, one behind the other. -/
def place (p : Position) (cs : List Char) :
    List (Option Lexeme × Nat) → List Token × Position × List Char
  | [] => ([], p, cs)
  | (l, n) :: more =>
    let q := p.after (cs.take n)
    let (tokens, behind) := place q (cs.drop n) more
    match l with
    | some l => (⟨l, p, q⟩ :: tokens, behind)
    | none => (tokens, behind)

/-- Reads tokens to the end of the text. Every round reads a character at least,
so a fuel of one more than the length suffices. -/
def scanFrom (fuel : Nat) (around : List Surrounding) (p : Position) (cs : List Char)
    (acc : List Token) : Option (List Token) :=
  match fuel, cs with
  | _, [] => if around.length ≤ 1 then some acc.reverse else none
  | 0, _ => none
  | fuel + 1, cs => do
    let found ← find around cs
    let (tokens, q, rest) := place p cs found.lexemes
    scanFrom fuel found.around q rest (tokens.reverse ++ acc)

/-- The tokens of a source text; a byte order mark at its start is skipped. -/
def scan (text : String) : Option (List Token) :=
  let cs := text.toList
  let cs := match cs with
    | '\uFEFF' :: rest => rest
    | cs => cs
  scanFrom (cs.length + 1) [.code 0] .start cs []

end GraphWalk.Source
