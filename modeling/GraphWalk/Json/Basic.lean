import GraphWalk.Text.Quoted

/-!
# JSON documents

A document keeps the order of its members and the text of its numbers, so that
nothing is lost between reading and writing. `Json.render` writes it without
blanks.
-/

namespace GraphWalk

/-- A JSON document. A number is the text that spells it. -/
inductive Json where
  | null
  | bool (b : Bool)
  | num (literal : String)
  | str (s : String)
  | arr (items : List Json)
  | obj (members : List (String × Json))
deriving Repr, BEq, Inhabited

namespace Json

/-- How one character is written inside a JSON string. Angle brackets, the
ampersand and the two line separators are escaped, so that the text is safe in
markup. -/
def escapeChar (c : Char) : List Char :=
  match c with
  | '"' => ['\\', '"']
  | '\\' => ['\\', '\\']
  | '\n' => ['\\', 'n']
  | '\r' => ['\\', 'r']
  | '\t' => ['\\', 't']
  | '\x08' => ['\\', 'b']
  | '\x0c' => ['\\', 'f']
  | c =>
    if c.toNat < 0x20 ∨ c = '<' ∨ c = '>' ∨ c = '&' ∨ c.toNat = 0x2028 ∨ c.toNat = 0x2029 then
      '\\' :: 'u' :: Text.hexPadded 4 c.toNat
    else [c]

/-- A JSON string literal. -/
def quoted (s : String) : String :=
  String.ofList ('"' :: s.toList.flatMap escapeChar ++ ['"'])

/-- Joins the parts with commas between the two brackets. -/
def bracket (opening closing : String) (parts : List String) : String :=
  opening ++ ",".intercalate parts ++ closing

mutual

/-- The text of a document, without blanks. -/
def render : Json → String
  | .null => "null"
  | .bool true => "true"
  | .bool false => "false"
  | .num literal => literal
  | .str s => quoted s
  | .arr items => bracket "[" "]" (renderItems items)
  | .obj members => bracket "\x7b" "\x7d" (renderMembers members)

def renderItems : List Json → List String
  | [] => []
  | j :: js => j.render :: renderItems js

def renderMembers : List (String × Json) → List String
  | [] => []
  | (k, j) :: rest => (quoted k ++ ":" ++ j.render) :: renderMembers rest

end

/-- The member of an object under a key; the last one counts. -/
def get? (j : Json) (key : String) : Option Json :=
  match j with
  | .obj members => (members.reverse.find? (·.1 = key)).map (·.2)
  | _ => none

/-- A whole number. -/
def ofNat (n : Nat) : Json := .num (toString n)

def ofInt (n : Int) : Json := .num (toString n)

/-- Orders two texts by their bytes. -/
def keyLe (a b : String) : Bool := !(b < a)

/-- An object whose members are written in the order of their keys. -/
def sorted (members : List (String × Json)) : Json :=
  .obj (members.mergeSort (fun a b => keyLe a.1 b.1))

/-- The kind of a document in messages. -/
def kind : Json → String
  | .null => "null"
  | .bool _ => "bool"
  | .num _ => "number"
  | .str _ => "string"
  | .arr _ => "array"
  | .obj _ => "object"

/-- A name inside a path, where tildes and slashes are spelled out. -/
def pathStep (name : String) : String :=
  String.join (name.toList.map fun c => if c = '~' then "~0" else if c = '/' then "~1" else c.toString)

/-- What the place at the end of a path is called in messages: an element if the path
ends in a number, else a field, and for an empty path the value itself. -/
def placeName (path : List String) : String :=
  let whole := ".".intercalate path
  let last := whole.toList.reverse.takeWhile (· ≠ '.')
  if whole.isEmpty then "Go value"
  else if !last.isEmpty && last.all Char.isDigit then "." ++ whole
  else "Go struct field ." ++ whole

/-- That a document of kind `got` stands at a place for something of type `want`. -/
def wrongKind (got : String) (path : List String) (want : String) : String :=
  "json: cannot unmarshal " ++ got ++ " into " ++ placeName path ++ " of type " ++ want

end Json

end GraphWalk
