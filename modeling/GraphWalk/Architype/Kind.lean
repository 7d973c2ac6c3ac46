import GraphWalk.Text.Quoted

/-!
# Kinds, events, directions and ability paths

The small vocabulary of the type layer, each with its text form.

`Path.parse` accepts exactly the texts `kind.Name.name` of a kind and two
identifiers, and `Path.text` writes them.
-/

namespace GraphWalk

/-- The kinds of architype. A code that is none of the four has no meaning; it
can be named but never registered. -/
inductive Kind where
  | object
  | node
  | edge
  | walker
  | invalid (code : Nat)
deriving Repr, DecidableEq, Inhabited

namespace Kind

def code : Kind → Nat
  | .object => 1
  | .node => 2
  | .edge => 3
  | .walker => 4
  | .invalid n => n

def ofCode : Nat → Kind
  | 1 => .object
  | 2 => .node
  | 3 => .edge
  | 4 => .walker
  | n => .invalid n

def text : Kind → String
  | .object => "object"
  | .node => "node"
  | .edge => "edge"
  | .walker => "walker"
  | .invalid n => "kind(" ++ toString n ++ ")"

def isValid : Kind → Bool
  | .invalid _ => false
  | _ => true

def parse? : String → Option Kind
  | "object" => some .object
  | "node" => some .node
  | "edge" => some .edge
  | "walker" => some .walker
  | _ => none

def unknownMessage (raw : String) : String := "unknown architype kind " ++ Text.quote raw

end Kind

/-- When an ability fires: never by itself, when a walker arrives, or when it
leaves. -/
inductive Event where
  | none
  | entry
  | exit
deriving Repr, DecidableEq, Inhabited

namespace Event

def code : Event → Nat
  | .none => 0
  | .entry => 1
  | .exit => 2

def ofCode : Nat → Event
  | 1 => .entry
  | 2 => .exit
  | _ => .none

def text : Event → String
  | .none => "none"
  | .entry => "entry"
  | .exit => "exit"

def parse? : String → Option Event
  | "" | "none" => some .none
  | "entry" => some .entry
  | "exit" => some .exit
  | _ => Option.none

def unknownMessage (raw : String) : String :=
  "unknown event " ++ Text.quote raw ++ " (expected entry or exit)"

end Event

/-- Which way a directed edge may be followed. -/
inductive Direction where
  | any
  | out
  | into
deriving Repr, DecidableEq, Inhabited

namespace Direction

def ofCode : Nat → Direction
  | 1 => .out
  | 2 => .into
  | _ => .any

def text : Direction → String
  | .any => "any"
  | .out => "out"
  | .into => "in"

def parse? : String → Option Direction
  | "out" => some .out
  | "in" => some .into
  | "any" | "" => some .any
  | _ => none

end Direction

/-- The name of an architype: kinds have separate name spaces. -/
structure ArchKey where
  kind : Kind
  name : String
deriving Repr, DecidableEq, Inhabited

def ArchKey.text (k : ArchKey) : String := k.kind.text ++ "." ++ k.name

/-- The name of an ability slot of an architype. -/
structure Path where
  kind : Kind
  arch : String
  ability : String
deriving Repr, DecidableEq, Inhabited

namespace Path

def key (p : Path) : ArchKey := ⟨p.kind, p.arch⟩

def text (p : Path) : String := p.kind.text ++ "." ++ p.arch ++ "." ++ p.ability

def isIdentStart (c : Char) : Bool := c.isAlpha || c = '_'

def isIdentChar (c : Char) : Bool := c.isAlphanum || c = '_'

/-- Whether a text is a plain identifier: a letter or underscore, then letters,
digits and underscores, all ASCII. -/
def isIdent : List Char → Bool
  | [] => false
  | c :: cs => isIdentStart c && cs.all isIdentChar

/-- Cuts a text at its points. -/
def cut (cs : List Char) : List (List Char) :=
  match cs with
  | [] => [[]]
  | '.' :: rest => [] :: cut rest
  | c :: rest => match cut rest with
    | [] => [[c]]
    | part :: parts => (c :: part) :: parts

/-- Reads an ability path. -/
def parse? (raw : String) : Option Path :=
  match cut raw.toList with
  | [k, a, b] =>
    match Kind.parse? (String.ofList k) with
    | some kind =>
      if isIdent a && isIdent b then some ⟨kind, String.ofList a, String.ofList b⟩ else none
    | none => none
  | _ => none

def invalidMessage (raw : String) : String := "invalid ability path " ++ Text.quote raw

end Path

end GraphWalk
