import GraphWalk.Text.Quoted

/-!
# Handles

A handle names an instance of the store: a node or an edge, the slot it sits in,
and the generation of the slot. Generations of live instances start at one, so a
handle with generation zero names nothing.

The text form is `n` or `e`, the index, a point and the generation.
-/

namespace GraphWalk

/-- What a handle names. The code numbers nodes 1 and edges 2; any other code
names nothing that exists. -/
inductive HandleKind where
  | invalid
  | node
  | edge
  | other (code : Nat)
deriving Repr, DecidableEq, Inhabited

namespace HandleKind

def ofCode : Nat → HandleKind
  | 0 => .invalid
  | 1 => .node
  | 2 => .edge
  | n => .other n

def name : HandleKind → String
  | .node => "node"
  | .edge => "edge"
  | _ => "invalid"

/-- The letter that starts the text form. -/
def letter : HandleKind → Char
  | .edge => 'e'
  | _ => 'n'

end HandleKind

structure Handle where
  kind : HandleKind
  index : UInt32
  gen : UInt32
deriving Repr, DecidableEq, Inhabited

namespace Handle

/-- The handle that names nothing. -/
def nil : Handle := ⟨.invalid, 0, 0⟩

def node (index gen : UInt32) : Handle := ⟨.node, index, gen⟩

def edge (index gen : UInt32) : Handle := ⟨.edge, index, gen⟩

def isNil (h : Handle) : Bool := h.gen == 0 || h.kind == .invalid

def isNode (h : Handle) : Bool := h.kind == .node && !h.isNil

def isEdge (h : Handle) : Bool := h.kind == .edge && !h.isNil

/-- The text form; a handle that names nothing reads `nil`. -/
def text (h : Handle) : String :=
  if h.isNil then "nil"
  else h.kind.letter.toString ++ toString h.index.toNat ++ "." ++ toString h.gen.toNat

/-- Why a text is no handle. -/
inductive ParseError where
  | empty
  | badFormat (raw : String)
  | badIndex (raw digits : String)
  | badGeneration (raw digits : String)
  | zeroGeneration (raw : String)
deriving Repr, DecidableEq

def ParseError.outOfRange (digits : String) : String :=
  "strconv.ParseUint: parsing " ++ Text.quote digits ++ ": value out of range"

def ParseError.message : ParseError → String
  | .empty => "handle cannot be empty"
  | .badFormat raw => "invalid handle format: " ++ Text.quote raw
  | .badIndex raw digits =>
    "invalid handle index in " ++ Text.quote raw ++ ": " ++ outOfRange digits
  | .badGeneration raw digits =>
    "invalid handle generation in " ++ Text.quote raw ++ ": " ++ outOfRange digits
  | .zeroGeneration raw =>
    "invalid handle " ++ Text.quote raw ++ ": generation must be positive"

/-- The natural number that a list of decimal digits spells. -/
def digitsValue (ds : List Char) : Nat :=
  ds.foldl (fun n c => 10 * n + (c.toNat - '0'.toNat)) 0

/-- Cuts a text into kind, index digits and generation digits. -/
def split? (raw : List Char) : Option (HandleKind × List Char × List Char) :=
  match raw with
  | c :: rest =>
    let kind? : Option HandleKind :=
      if c = 'n' then some .node else if c = 'e' then some .edge else none
    let index := rest.takeWhile Char.isDigit
    match kind?, rest.dropWhile Char.isDigit with
    | some kind, '.' :: gen =>
      if index.isEmpty || gen.isEmpty || !gen.all Char.isDigit then none
      else some (kind, index, gen)
    | _, _ => none
  | [] => none

/-- Reads a text form. Leading zeros are accepted. -/
def parse (raw : String) : Except ParseError Handle :=
  if raw = "" then .error .empty
  else match split? raw.toList with
    | none => .error (.badFormat raw)
    | some (kind, index, gen) =>
      let i := digitsValue index
      let g := digitsValue gen
      if i ≥ UInt32.size then .error (.badIndex raw (String.ofList index))
      else if g ≥ UInt32.size then .error (.badGeneration raw (String.ofList gen))
      else if g = 0 then .error (.zeroGeneration raw)
      else .ok ⟨kind, i.toUInt32, g.toUInt32⟩

end Handle

end GraphWalk
