import GraphWalk.Value.Basic

/-!
# What is known of values

Bounds hold of every value, known or not: a known value is its own bound. From a
hint `Value.ofHint` makes the value it leaves open, which may be a known one: a
number between equal bounds, or a list of known length. `Hint.excludes` says that
an unknown value cannot turn out to be a given one.
-/

namespace GraphWalk

namespace Value

/-- Bounds of the number of elements. A set with an element that is not known can
turn out smaller. -/
def lengthBounds : Value → Nat × Nat
  | .list _ vs | .tuple vs => (vs.length, vs.length)
  | .map _ kvs | .object kvs => (kvs.length, kvs.length)
  | .set _ vs =>
    if vs.length = 1 || whollyKnownList vs then (vs.length, vs.length) else (1, vs.length)
  | .unknown _ (some h) => (h.minLength, h.maxLength)
  | _ => (0, maxLength)

/-- The lowest number that a value can be, and whether it can be that. -/
def lowBound : Value → Number × Bool
  | .number n => (n, true)
  | .unknown _ (some h) => h.low.getD (.infinity true, false)
  | _ => (.infinity true, false)

/-- The highest number that a value can be, and whether it can be that. -/
def highBound : Value → Number × Bool
  | .number n => (n, true)
  | .unknown _ (some h) => h.high.getD (.infinity false, false)
  | _ => (.infinity false, false)

/-- Whether a value cannot be null. -/
def isNeverNull : Value → Bool
  | .null _ => false
  | .unknown _ h => (h.map Hint.notNull).getD false
  | _ => true

/-- The value of a type of which a hint is known. Of a value of dynamic type
nothing is. -/
def ofHint (ty : Ty) (h : Hint) : Value :=
  let open_ := Value.unknown ty (some h)
  match ty with
  | .dynamic => .unknown .dynamic
  | .number => match h.low, h.high with
    | some (a, true), some (b, true) => if h.notNull && a.sameAs b then .number a else open_
    | _, _ => open_
  | .list t =>
    if h.notNull && h.minLength = h.maxLength then
      .list t (List.replicate h.minLength (.unknown t))
    else open_
  | .set t =>
    if h.notNull && h.minLength = h.maxLength && h.minLength ≤ 1 then
      .set t (List.replicate h.minLength (.unknown t))
    else open_
  | .map t =>
    if h.notNull && h.minLength = h.maxLength && h.minLength = 0 then .map t [] else open_
  | _ => open_

/-- The unknown value of a type that is not null. -/
def unknownNotNull (ty : Ty) : Value := ofHint ty { notNull := true }

/-- Adds that a value is not null. -/
def refineNotNull : Value → Value
  | .unknown ty h => ofHint ty { h.getD {} with notNull := true }
  | v => v

/-- The number of elements as a value, which is not known while the elements are
not. -/
def length (v : Value) : Value :=
  let (lo, hi) := match v.type with
    | .tuple ts => (ts.length, ts.length)
    | _ => v.lengthBounds
  ofHint .number
    { notNull := true, low := some (.ofNat lo, true), high := some (.ofNat hi, true) }

/-- Whether a number lies outside of bounds. -/
def outside (n : Number) (low high : Number × Bool) : Bool :=
  (if low.2 then n.lt low.1 else !low.1.lt n) || (if high.2 then high.1.lt n else !n.lt high.1)

end Value

/-- Whether an unknown value of type `ty` cannot be the known value `v`. -/
def Hint.excludes (ty : Ty) (h : Option Hint) (v : Value) : Bool :=
  if v.isNull then (h.map Hint.notNull).getD false
  else if !v.type.conforms ty then true
  else match h with
    | none => false
    | some h => match v, ty with
      | .string s, .string => !s.startsWith h.start
      | .number n, .number =>
        Value.outside n (h.low.getD (.infinity true, false)) (h.high.getD (.infinity false, false))
      | v, ty =>
        ty.isCollection &&
          (v.lengthBounds.2 < h.minLength || h.maxLength < v.lengthBounds.1)

end GraphWalk
