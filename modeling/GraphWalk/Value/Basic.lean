import GraphWalk.Number.Decimal
import GraphWalk.Number.Read
import GraphWalk.Value.Type

/-!
# Values

A value carries its type: nulls and unknown values name it, collections name the
type of their elements, and everything else determines it (`Value.type`). Of an
unknown value a `Hint` may be known.

Maps and objects list their entries in the order of the keys; sets list their
elements in the order of `Value.setLt`, each once. Strings are in composed form
(`Value.text`).
-/

namespace GraphWalk

/-- The longest length of a collection. -/
def maxLength : Nat := 9223372036854775807

/-- What is known of a value that is not known itself. A bound of a number comes
with whether the bound is among the numbers. -/
structure Hint where
  notNull : Bool := false
  /-- The text that a string begins with. -/
  start : String := ""
  low : Option (Number × Bool) := none
  high : Option (Number × Bool) := none
  minLength : Nat := 0
  maxLength : Nat := maxLength
deriving Repr, BEq, Inhabited

inductive Value where
  | null (ty : Ty)
  | unknown (ty : Ty) (hint : Option Hint := none)
  | bool (b : Bool)
  | number (n : Number)
  | string (s : String)
  | list (elem : Ty) (items : List Value)
  | set (elem : Ty) (items : List Value)
  | map (elem : Ty) (entries : List (String × Value))
  | object (attrs : List (String × Value))
  | tuple (items : List Value)
deriving Repr, BEq, Inhabited

namespace Value

/-- A string value, in composed form. -/
def text (s : String) : Value := .string (Text.canonical s)

/-- A count as a value. -/
def count (n : Nat) : Value := .number (.ofNat n)

/-- A whole number as a value. -/
def whole (n : Int) : Value := .number (.ofIntPrec 64 n)

/-- A value about which nothing is known. -/
def anything : Value := .unknown .dynamic

mutual

/-- The type of a value. -/
def type : Value → Ty
  | .null ty | .unknown ty _ => ty
  | .bool _ => .bool
  | .number _ => .number
  | .string _ => .string
  | .list t _ => .list t
  | .set t _ => .set t
  | .map t _ => .map t
  | .object attrs => .object (typeAttrs attrs)
  | .tuple items => .tuple (typeList items)

def typeList : List Value → List Ty
  | [] => []
  | v :: vs => v.type :: typeList vs

def typeAttrs : List (String × Value) → List (String × Ty)
  | [] => []
  | (k, v) :: rest => (k, v.type) :: typeAttrs rest

end

def isNull : Value → Bool
  | .null _ => true
  | _ => false

def isKnown : Value → Bool
  | .unknown _ _ => false
  | _ => true

mutual

/-- Whether no part of the value is unknown. -/
def isWhollyKnown : Value → Bool
  | .unknown _ _ => false
  | .null _ | .bool _ | .number _ | .string _ => true
  | .list _ vs | .set _ vs | .tuple vs => whollyKnownList vs
  | .map _ kvs | .object kvs => whollyKnownAttrs kvs

def whollyKnownList : List Value → Bool
  | [] => true
  | v :: vs => v.isWhollyKnown && whollyKnownList vs

def whollyKnownAttrs : List (String × Value) → Bool
  | [] => true
  | (_, v) :: rest => v.isWhollyKnown && whollyKnownAttrs rest

end

mutual

/-- Whether the final type of the value is settled: no part is an unknown value
of dynamic type. -/
def hasKnownType : Value → Bool
  | .unknown ty _ => !ty.hasDynamic
  | .null _ | .bool _ | .number _ | .string _ => true
  | .list _ vs | .set _ vs | .tuple vs => knownTypeList vs
  | .map _ kvs | .object kvs => knownTypeAttrs kvs

def knownTypeList : List Value → Bool
  | [] => true
  | v :: vs => v.hasKnownType && knownTypeList vs

def knownTypeAttrs : List (String × Value) → Bool
  | [] => true
  | (_, v) :: rest => v.hasKnownType && knownTypeAttrs rest

end

/-- The object value with the given attributes, whose names are composed. -/
def ofAttrs (attrs : List (String × Value)) : Value :=
  .object (sortKeys (attrs.map fun (k, v) => (Text.canonical k, v)))

/-- An attribute of an object value. -/
def attr? (v : Value) (name : String) : Option Value :=
  match v with
  | .object attrs => lookupKey name attrs
  | _ => none

/-- The number of elements of a collection or structure. -/
def size : Value → Nat
  | .list _ vs | .set _ vs | .tuple vs => vs.length
  | .map _ kvs | .object kvs => kvs.length
  | _ => 0

/-- The elements in iteration order, each with its key: a position, a map key or
attribute name, or for a set the element itself. -/
def elements : Value → List (Value × Value)
  | .list _ vs | .tuple vs => vs.mapIdx fun i v => (count i, v)
  | .set _ vs => vs.map fun v => (v, v)
  | .map _ kvs | .object kvs => kvs.map fun (k, v) => (.string k, v)
  | _ => []

end Value

end GraphWalk
