import GraphWalk.Text.Quoted
import GraphWalk.Text.Ranges

/-!
# Internet addresses

An address is four decimal fields divided by points, or eight hexadecimal groups
divided by colons, where one run of zero groups may be written `::`, the last two
groups may be written as four decimal fields, and a zone may follow a percent
sign. Reading tells at which place a text stops being an address.
-/

namespace GraphWalk

inductive IpAddress where
  | v4 (fields : List Nat)
  | v6 (groups : List Nat) (zone : Option String)
deriving Repr, DecidableEq, Inhabited

namespace IpAddress

/-- Why a text is no internet address. -/
inductive Fault where
  | noSeparator
  | zoneAlone
  | emptyZone
  | leadingZero
  | fieldTooLarge
  | emptyField
  | tooManyFields
  | tooFewFields
  | unexpectedCharacter
  | groupTooLong
  | emptyGroup
  | fieldsNotLast
  | noRoomForFields
  | colonExpected
  | colonAtEnd
  | secondEllipsis
  | textLeft
  | tooFewGroups
  | emptyEllipsis
deriving Repr, DecidableEq

def Fault.message : Fault → String
  | .noSeparator => "unable to parse IP"
  | .zoneAlone => "missing IPv6 address"
  | .emptyZone => "zone must be a non-empty string"
  | .leadingZero => "IPv4 field has octet with leading zero"
  | .fieldTooLarge => "IPv4 field has value >255"
  | .emptyField => "IPv4 field must have at least one digit"
  | .tooManyFields => "IPv4 address too long"
  | .tooFewFields => "IPv4 address too short"
  | .unexpectedCharacter => "unexpected character"
  | .groupTooLong => "each group must have 4 or less digits"
  | .emptyGroup => "each colon-separated field must have at least one digit"
  | .fieldsNotLast => "embedded IPv4 address must replace the final 2 fields of the address"
  | .noRoomForFields =>
    "too many hex fields to fit an embedded IPv4 at the end of the address"
  | .colonExpected => "unexpected character, want colon"
  | .colonAtEnd => "colon must be followed by more characters"
  | .secondEllipsis => "multiple :: in address"
  | .textLeft => "trailing garbage after address"
  | .tooFewGroups => "address string too short"
  | .emptyEllipsis => "the :: must expand to at least one field"

/-- A fault, with what is left of the text where it has a place. -/
structure Error where
  fault : Fault
  place : List Char
deriving Repr, DecidableEq

/-- Tells what is wrong with `text`. -/
def Error.message (text : String) (e : Error) : String :=
  "ParseAddr(" ++ Text.quote text ++ "): " ++ e.fault.message
    ++ (if e.place.isEmpty then "" else " (at " ++ Text.quote (String.ofList e.place) ++ ")")

/-- Reads four decimal fields. `value` and `digits` belong to the field that is being
read, `done` holds the fields before it, the last one first. -/
def readFields (value digits : Nat) (done : List Nat) : List Char → Except Error (List Nat)
  | [] => if done.length < 3 then .error ⟨.tooFewFields, []⟩ else .ok (value :: done).reverse
  | c :: rest =>
    if c.isDigit then
      let value' := 10 * value + (c.toNat - '0'.toNat)
      if digits = 1 ∧ value = 0 then .error ⟨.leadingZero, []⟩
      else if value' > 255 then .error ⟨.fieldTooLarge, []⟩
      else readFields value' (digits + 1) done rest
    else if c = '.' then
      if digits = 0 ∨ rest = [] then .error ⟨.emptyField, c :: rest⟩
      else if done.length = 3 then .error ⟨.tooManyFields, []⟩
      else readFields 0 0 (value :: done) rest
    else .error ⟨.unexpectedCharacter, c :: rest⟩

/-- Groups as they are written: the position of `::` among them, if there is one. -/
structure Written where
  groups : List Nat
  ellipsis : Option Nat
deriving Repr, DecidableEq

/-- Reads up to `room` groups behind those of `w`, and returns the text that is left. -/
def readGroups (w : Written) (cs : List Char) : Nat → Except Error (Written × List Char)
  | 0 => .ok (w, cs)
  | room + 1 =>
    let digits := cs.takeWhile fun c => (Text.hexDigit? c).isSome
    let value := digits.foldl (fun n c => 16 * n + (Text.hexDigit? c).getD 0) 0
    let longer : Written := { w with groups := w.groups ++ [value] }
    if digits.length > 4 then .error ⟨.groupTooLong, cs⟩
    else if digits.isEmpty then .error ⟨.emptyGroup, cs⟩
    else match cs.drop digits.length with
      | [] => .ok (longer, [])
      | '.' :: _ =>
        if w.ellipsis.isNone ∧ room ≠ 1 then .error ⟨.fieldsNotLast, cs⟩
        else if room = 0 then .error ⟨.noRoomForFields, cs⟩
        else match readFields 0 0 [] cs with
          | .ok [a, b, c, d] =>
            .ok ({ w with groups := w.groups ++ [256 * a + b, 256 * c + d] }, [])
          | .ok _ => .error ⟨.tooFewFields, []⟩
          | .error e => .error e
      | [':'] => .error ⟨.colonAtEnd, [':']⟩
      | ':' :: ':' :: rest =>
        if w.ellipsis.isSome then .error ⟨.secondEllipsis, ':' :: rest⟩
        else
          let open' : Written := { longer with ellipsis := some longer.groups.length }
          if rest.isEmpty then .ok (open', []) else readGroups open' rest room
      | ':' :: rest => readGroups longer rest room
      | rest => .error ⟨.colonExpected, rest⟩

/-- The eight groups that were meant: `::` stands for at least one zero group. -/
def Written.expand (w : Written) : Except Error (List Nat) :=
  match w.ellipsis with
  | none => if w.groups.length < 8 then .error ⟨.tooFewGroups, []⟩ else .ok w.groups
  | some at' =>
    if w.groups.length < 8 then
      .ok (w.groups.take at' ++ List.replicate (8 - w.groups.length) 0 ++ w.groups.drop at')
    else .error ⟨.emptyEllipsis, []⟩

/-- Reads eight groups. -/
def readSix (cs : List Char) : Except Error (List Nat) := do
  let (w, rest) ← match cs with
    | [':', ':'] => .ok (⟨[], some 0⟩, [])
    | ':' :: ':' :: rest => readGroups ⟨[], some 0⟩ rest 8
    | cs => readGroups ⟨[], none⟩ cs 8
  if rest.isEmpty then w.expand else throw ⟨.textLeft, rest⟩

/-- Reads an address. The first separator decides which form it has. -/
def parse (s : String) : Except Error IpAddress :=
  let cs := s.toList
  match cs.find? fun c => c = '.' || c = ':' || c = '%' with
  | none => .error ⟨.noSeparator, []⟩
  | some '%' => .error ⟨.zoneAlone, []⟩
  | some '.' => (readFields 0 0 [] cs).map .v4
  | some _ =>
    let address := cs.takeWhile (· ≠ '%')
    match cs.drop address.length with
    | [] => (readSix address).map (.v6 · none)
    | [_] => .error ⟨.emptyZone, []⟩
    | _ :: zone => (readSix address).map (.v6 · (some (String.ofList zone)))

def isV4 : IpAddress → Bool
  | .v4 _ => true
  | .v6 .. => false

end IpAddress

end GraphWalk
