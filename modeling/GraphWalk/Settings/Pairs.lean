import GraphWalk.Settings.Value
import GraphWalk.Text.Split
import GraphWalk.Value.Type

/-!
# Settings as lines of names and values

A line is a name, an equals sign or a colon, and a value, which may be quoted and then
go on over lines. A dollar sign in front of a name in capitals stands for what is
known under that name, unless single quotes or a backslash forbid it.
-/

namespace GraphWalk.Pairs

inductive Problem where
  | missingQuotes
  | unsetVariable (line : String)
  | malformed (line : String)
deriving Repr, DecidableEq

def Problem.message : Problem → String
  | .missingQuotes => "missing quotes"
  | .unsetVariable line => "line \x60" ++ line ++ "\x60 has an unset variable"
  | .malformed line => "line \x60" ++ line ++ "\x60 doesn't match format"

/-- The lines of a text, which a carriage return, a line feed or both end. -/
def linesOf : List Char → List (List Char)
  | [] => [[]]
  | '\r' :: '\n' :: rest => [] :: linesOf rest
  | c :: rest =>
    if c = '\r' || c = '\n' then [] :: linesOf rest
    else match linesOf rest with
      | [] => [[c]]
      | l :: ls => (c :: l) :: ls

def trim (cs : List Char) : List Char :=
  ((cs.dropWhile Text.isSpace).reverse.dropWhile Text.isSpace).reverse

/-- A blank among the ASCII characters. -/
def isPlainSpace (c : Char) : Bool := c = ' ' || c = '\t' || c = '\n' || c = '\r' || c = '\x0c'

/-! ## Lines that belong together -/

/-- What stands in front of the last place of a character. -/
def beforeLast (x : Char) (cs : List Char) : Option (List Char) :=
  match cs.reverse.dropWhile (· ≠ x) with
  | [] => none
  | _ :: before => some before.reverse

/-- What follows the first equals sign of a line, or else its first colon. -/
def afterMark (line : List Char) : List Char :=
  match line.dropWhile (· ≠ '=') with
  | _ :: v => if line.head? = some '=' then [] else v
  | [] => if line.head? = some ':' then [] else (line.dropWhile (· ≠ ':')).drop 1

/-- The quote that a line leaves open, if any. -/
def openQuote (line : List Char) : Option Char :=
  match trim (afterMark line) with
  | q :: rest =>
    if q = '"' || q = '\'' then
      match beforeLast q (trim rest) with
      | none => some q
      | some before => if ((q :: rest).drop before.length).head? = some '\\' then some q else none
    else none
  | [] => none

/-- Whether a line closes a quote. -/
def closes (q : Char) (line : List Char) : Bool :=
  match beforeLast q line with
  | none => false
  | some before => before.getLast? ≠ some '\\'

/-- A line with those that go on its quoted value, and the lines behind. -/
def gather (q : Char) : List Char → List (List Char) → Except Problem (List Char × List (List Char))
  | _, [] => .error .missingQuotes
  | line, l :: ls =>
    let line := line ++ '\n' :: l
    if closes q l then .ok (line, ls) else gather q line ls

/-! ## The form of a line -/

def isNameChar (c : Char) : Bool := c.isAlphanum || c = '_' || c = '.'

/-- Whether nothing but blanks and a comment follows. -/
def isTail (cs : List Char) : Bool :=
  match cs.dropWhile isPlainSpace with
  | [] => true
  | c :: rest => c = '#' && !rest.contains '\n'

/-- The longest text between two quotes behind which nothing follows. -/
def quotedValue? (q : Char) (cs : List Char) : Option (List Char) :=
  match cs with
  | c :: rest => if c = q then go rest.length rest else none
  | [] => none
where
  go : Nat → List Char → Option (List Char)
    | 0, _ => none
    | n + 1, rest =>
      if (rest.drop n).head? = some q && isTail (rest.drop (n + 1)) then
        some (q :: rest.take (n + 1))
      else go n rest

/-- A value as it is written; none if something else follows it. -/
def writtenValue? (cs : List Char) : Option (List Char) :=
  (quotedValue? '\'' cs).orElse fun _ => (quotedValue? '"' cs).orElse fun _ =>
    let plain := cs.takeWhile fun c => c ≠ '#' && c ≠ '\n'
    if isTail (cs.drop plain.length) then some plain else none

/-- The written value behind a colon, which a blank follows. Further blanks count to the
value, unless it has no form then. -/
def afterColon? : List Char → Option (List Char)
  | [] => none
  | c :: v => if isPlainSpace c then (writtenValue? v).orElse fun _ => afterColon? v else none

/-- The name and the written value of a line without a word in front. -/
def splitNamed? (cs : List Char) : Option (List Char × List Char) :=
  let name := cs.takeWhile isNameChar
  let rest := cs.drop name.length
  if name.isEmpty then none
  else match rest.dropWhile isPlainSpace with
    | '=' :: v => (writtenValue? (v.dropWhile isPlainSpace)).map fun v => (name, v)
    | _ => match rest with
      | ':' :: v => (afterColon? v).map fun v => (name, v)
      | _ => none

/-- The name and the written value of a line. -/
def split? (line : List Char) : Option (List Char × List Char) :=
  let cs := line.dropWhile isPlainSpace
  let word := "export".toList
  let behind := cs.drop word.length
  let exported :=
    if cs.take word.length = word && (behind.head?.map isPlainSpace).getD false then
      splitNamed? (behind.dropWhile isPlainSpace)
    else none
  exported.orElse fun _ => splitNamed? cs

/-! ## Values -/

/-- Replaces two characters by one, wherever they stand together. -/
def replacePair (a b : Char) (by' : Char) : List Char → List Char
  | x :: y :: rest =>
    if x = a && y = b then by' :: replacePair a b by' rest
    else x :: replacePair a b by' (y :: rest)
  | cs => cs

/-- Drops a backslash in front of every character but a dollar sign. -/
def dropEscapes : List Char → List Char
  | '\\' :: c :: rest => if c = '$' then '\\' :: dropEscapes (c :: rest) else c :: dropEscapes rest
  | c :: rest => c :: dropEscapes rest
  | [] => []

def isVariableChar (c : Char) : Bool := c.isUpper || c.isDigit || c = '_'

/-- A name behind a dollar sign, with or without braces: its characters, and how many
characters it takes. -/
def variableAt (cs : List Char) : List Char × Nat :=
  let (opened, body) := match cs with
    | '\x7b' :: rest => (1, rest)
    | _ => (0, cs)
  let name := body.takeWhile isVariableChar
  let closed := if (body.drop name.length).head? = some '\x7d' then 1 else 0
  (name, opened + name.length + closed)

/-- Replaces names behind dollar signs. A backslash in front of the sign is dropped and
keeps the name. -/
def expand (known : String → String) : Nat → List Char → List Char
  | 0, cs => cs
  | fuel + 1, cs =>
    match cs with
    | '\\' :: '$' :: rest =>
      let (_, n) := variableAt rest
      '$' :: rest.take n ++ expand known fuel (rest.drop n)
    | '$' :: rest =>
      let (name, n) := variableAt rest
      (if name.isEmpty then '$' :: rest.take n else (known (String.ofList name)).toList)
        ++ expand known fuel (rest.drop n)
    | c :: rest => c :: expand known fuel rest
    | [] => []

/-- What a written value stands for. -/
def valueOf (known : String → String) (written : List Char) : String :=
  let v := trim written
  let within := fun (q : Char) => v.length ≥ 2 && v.head? = some q && v.getLast? = some q
  let inside := (v.drop 1).dropLast
  if within '\'' then String.ofList inside
  else if within '"' then
    let text := dropEscapes (replacePair '\\' 'r' '\r' (replacePair '\\' 'n' '\n' inside))
    String.ofList (expand known (text.length + 1) text)
  else String.ofList (expand known (v.length + 1) v)

/-! ## Documents -/

/-- What is known under a name: a process variable, or what a line above has set. -/
def known (environment : List (String × String)) (set : List (String × SettingValue))
    (name : String) : String :=
  match lookupKey name environment with
  | some v => v
  | none => ((lookupKey name set).map SettingValue.toText).getD ""

/-- What is wrong with a line that has no form. -/
def complaint (set : List (String × SettingValue)) (line : List Char) : Problem :=
  let text := String.ofList line
  let trimmed := trim line
  let name := (trimmed.dropWhile (· ≠ ' ')).drop 1
  if trimmed.take 6 = "export".toList && trimmed.contains ' '
      && (lookupKey (String.ofList name) set).isNone then
    .unsetVariable (String.ofList trimmed)
  else .malformed text

/-- Reads lines one after the other. -/
def readLines (environment : List (String × String)) : Nat → List (String × SettingValue) →
    List (List Char) → Except Problem (List (String × SettingValue))
  | 0, set, _ => .ok set
  | _, set, [] => .ok set
  | fuel + 1, set, l :: ls => do
    let line := trim l
    if line.isEmpty || line.head? = some '#' then readLines environment fuel set ls
    else do
      let (line, ls) ← match openQuote line with
        | none => pure (line, ls)
        | some q => gather q line ls
      match split? line with
      | none => throw (complaint set line)
      | some (name, written) =>
        let v := valueOf (known environment set) written
        readLines environment fuel (insertKey (String.ofList name) (.text v) set) ls

/-- Reads settings, or says what is wrong. -/
def read (environment : List (String × String)) (text : String) :
    Except String (List (String × SettingValue)) :=
  let cs := match text.toList with
    | c :: rest => if c.toNat = 0xFEFF then rest else c :: rest
    | [] => []
  let lines := linesOf cs
  (readLines environment (lines.length + 1) [] lines).mapError Problem.message

end GraphWalk.Pairs
