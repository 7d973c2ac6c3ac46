import GraphWalk.Value.Hint

/-!
# Equality and order of values, and collections

`Value.equals` compares two values; the answer is `none` while an unknown part
could still change it. Numbers are equal when they stand for the same number,
whatever their precision. Nulls are equal whatever their type.

`Value.ofSet` brings the elements of a set into order and keeps each once.

The elements of a collection have one type. Nulls and unknown values of dynamic
type take the type of the others; two different types do not fit together.
-/

namespace GraphWalk

namespace Value

/-- Settles the comparison of two values of which one is null or not known; else
leaves it to `shape`, which compares the parts of values of one type. -/
def equalsTop (x y : Value) (shape : Option Bool) : Option Bool :=
  if (x.isNull && y.isNeverNull) || (y.isNull && x.isNeverNull) then some false
  else match x, y with
    | .unknown _ _, .unknown _ _ => none
    | .unknown ty h, v | v, .unknown ty h => if Hint.excludes ty h v then some false else none
    | .null _, .null _ => some true
    | .null _, _ | _, .null _ => some false
    | _, _ =>
      if !x.hasKnownType || !y.hasKnownType then
        if !x.type.conforms y.type && !y.type.conforms x.type then some false else none
      else if x.type == y.type then shape else some false

mutual

/-- Whether two values are equal; `none` while that is open. -/
def equals (x y : Value) : Option Bool := equalsTop x y (sameShape x y)

/-- Compares two values of one type, part by part. -/
def sameShape : Value → Value → Option Bool
  | .bool a, .bool b => some (a == b)
  | .number a, .number b => some (a.sameAs b)
  | .string a, .string b => some (a == b)
  | .list _ as, .list _ bs => if as.length = bs.length then equalsList as bs else some false
  | .set _ as, .set _ bs =>
    if as.all isKnown && bs.all isKnown then some (as.length = bs.length && allAmong as bs)
    else none
  | .tuple as, .tuple bs => equalsList as bs
  | .map _ as, .map _ bs => equalsEntries as bs
  | .object as, .object bs => equalsEntries as bs
  | _, _ => some false

/-- Compares place by place, up to the first that differs or is open. -/
def equalsList : List Value → List Value → Option Bool
  | [], [] => some true
  | a :: as, b :: bs =>
    match equalsTop a b (sameShape a b) with
    | some true => equalsList as bs
    | answer => answer
  | _, _ => some false

def equalsEntries : List (String × Value) → List (String × Value) → Option Bool
  | [], [] => some true
  | (k, a) :: as, (k', b) :: bs =>
    if k = k' then
      match equalsTop a b (sameShape a b) with
      | some true => equalsEntries as bs
      | answer => answer
    else some false
  | _, _ => some false

/-- Whether each of the first values is certainly among the second. -/
def allAmong : List Value → List Value → Bool
  | [], _ => true
  | a :: as, bs =>
    bs.any (fun b => equalsTop a b (sameShape a b) == some true) && allAmong as bs

end

/-- Whether a number is below another; `none` while that is open. -/
def less (x y : Value) : Option Bool :=
  match x, y with
  | .number a, .number b => some (a.lt b)
  | _, _ =>
    if x.highBound.1.lt y.lowBound.1 then some true
    else if y.highBound.1.lt x.lowBound.1 then some false
    else none

/-- Whether a number is not above another; `none` while that is open. -/
def lessOrEqual (x y : Value) : Option Bool :=
  match less x y, equals x y with
  | some true, _ | _, some true => some true
  | some false, b => b
  | none, _ => none

mutual

/-- A text that orders values of a type without an order of its own. Equal values
have equal texts. -/
def orderText : Value → String
  | .unknown _ _ => "?"
  | .null _ => "~"
  | .bool true => "T"
  | .bool false => "F"
  | .number n => n.render (.general false) (some 10)
  | .string s => Text.quote s
  | .list _ vs | .set _ vs => "[" ++ orderTextList vs ++ "]"
  | .tuple vs => "<" ++ orderTextList vs ++ ">"
  | .map _ kvs => "\x7b" ++ orderTextEntries true kvs ++ "\x7d"
  | .object kvs => "<" ++ orderTextEntries false kvs ++ ">"

def orderTextList : List Value → String
  | [] => ""
  | v :: vs => v.orderText ++ ";" ++ orderTextList vs

/-- Entries, with their keys when `keyed`. -/
def orderTextEntries (keyed : Bool) : List (String × Value) → String
  | [] => ""
  | (k, v) :: rest =>
    (if keyed then Text.quote k ++ ":" else "") ++ v.orderText ++ ";"
      ++ orderTextEntries keyed rest

end

/-- The order of the elements of a set: nulls last and unknown ones before them,
then by value where the type has an order and by `orderText` where it has none. -/
def setLt (x y : Value) : Bool :=
  match x, y with
  | .null _, _ => false
  | _, .null _ => true
  | .unknown _ _, _ => false
  | _, .unknown _ _ => true
  | .string a, .string b => a < b
  | .bool a, .bool b => !a && b
  | .number a, .number b => a.lt b
  | _, _ => if x.equals y = some true then false else x.orderText < y.orderText

/-- Keeps the first of every group of equal values. -/
def dedup (vs : List Value) : List Value :=
  (vs.foldl (fun acc v => if acc.any (fun u => u.equals v = some true) then acc else v :: acc)
    []).reverse

/-- The set of the given elements. -/
def ofSet (elem : Ty) (vs : List Value) : Value :=
  .set elem ((dedup vs).mergeSort (fun a b => !setLt b a))

end Value

end GraphWalk

namespace GraphWalk.Value

/-- The type that values have in common, or two that do not fit. `elem` is that of
the values before. -/
def elementType : Ty → List Value → Except (Ty × Ty) Ty
  | elem, [] => .ok elem
  | elem, v :: vs =>
    if elem.isDynamic then elementType v.type vs
    else if v.type.isDynamic || v.type == elem then elementType elem vs
    else .error (elem, v.type)

/-- Gives a value of dynamic type the type of the elements around it. -/
def retype (elem : Ty) : Value → Value
  | .null .dynamic => .null elem
  | .unknown .dynamic _ => .unknown elem
  | v => v

/-- The list of some values. -/
def listOf (vs : List Value) : Except (Ty × Ty) Value := do
  let elem ← elementType .dynamic vs
  return .list elem (vs.map (retype elem))

/-- The set of some values. -/
def setOf (vs : List Value) : Except (Ty × Ty) Value := do
  let elem ← elementType .dynamic vs
  return .ofSet elem (vs.map (retype elem))

/-- The map with the given entries, sorted by key; of several entries with one key
the last counts. -/
def mapOf (kvs : List (String × Value)) : Except (Ty × Ty) Value := do
  let elem ← elementType .dynamic (kvs.map (·.2))
  return .map elem (sortKeys (kvs.map fun (k, v) => (Text.canonical k, retype elem v)))

end GraphWalk.Value
