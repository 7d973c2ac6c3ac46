import GraphWalk.Text.Case
import GraphWalk.Value.Equality
import GraphWalk.Value.Preference

/-!
# Conversions between types

Whether a conversion exists depends on the types alone; it may still fail on a
value, for instance on a string that spells no number. A conversion is safe when it
cannot fail and loses nothing.

Conversion and unification call each other on the parts of the types; a
`TypeEngine` holds both for types below some depth, and `typeEngine` builds one
from the next smaller one.
-/

namespace GraphWalk

/-- Why a value does not convert. -/
inductive ConversionError where
  | mismatch (text : String)
  | notANumber
  | notABool
  | notLowercase (word : String)
  | missingElement (name : String)
  | mixedElements (kind : String)
  | mixedAttributes
  | noCommonType
deriving Repr, BEq

def ConversionError.message : ConversionError → String
  | .mismatch text => text
  | .notANumber => "a number is required"
  | .notABool => "a bool is required"
  | .notLowercase word =>
    "a bool is required; to convert from string, use lowercase " ++ Text.quote word
  | .missingElement name => "map has no element for required attribute " ++ Text.quote name
  | .mixedElements kind => "element types must all match for conversion to " ++ kind
  | .mixedAttributes => "attribute types must all match for conversion to map"
  | .noCommonType => "cannot find a common base type for all elements"

/-- A way to convert the values of one type. -/
abbrev Conversion := Value → Except ConversionError Value

/-- The conversions between primitive types. -/
def primitiveConversion (safe : Bool) : Ty → Ty → Option Conversion
  | .number, .string => some fun
    | .number n => .ok (.string n.text)
    | v => .ok v
  | .bool, .string => some fun
    | .bool b => .ok (.string (if b then "true" else "false"))
    | v => .ok v
  | .string, .number => if safe then none else some fun
    | .string s => match Number.read? s with
      | some n => .ok (.number n)
      | none => .error .notANumber
    | v => .ok v
  | .string, .bool => if safe then none else some fun
    | .string "true" | .string "1" => .ok (.bool true)
    | .string "false" | .string "0" => .ok (.bool false)
    | .string s =>
      if Text.lower s = "true" then .error (.notLowercase "true")
      else if Text.lower s = "false" then .error (.notLowercase "false")
      else .error .notABool
    | v => .ok v
  | _, _ => none

def identityConversion : Conversion := .ok

/-- Converts the entries of a map or object one by one; `convs` says how, and
entries that it does not name are dropped. -/
def convertEntries (convs : List (String × Conversion)) :
    List (String × Value) → Except ConversionError (List (String × Value))
  | [] => .ok []
  | (k, v) :: rest =>
    match lookupKey k convs with
    | none => convertEntries convs rest
    | some conv => do
      let v' ← conv v
      let rest' ← convertEntries convs rest
      return (k, v') :: rest'

/-- Converts items by the conversions at the same places. -/
def convertItems : List Conversion → List Value → Except ConversionError (List Value)
  | conv :: convs, v :: vs => do
    let v' ← conv v
    let vs' ← convertItems convs vs
    return v' :: vs'
  | _, _ => .ok []

/-- The element type of an empty collection: the wanted one, or if any is wanted
that of the source. -/
def emptyElem (want source : Ty) : Ty := if want.isDynamic then source else want

/-- What the conversion of a type needs of smaller types. -/
structure TypeEngine where
  conversion : (safe : Bool) → Ty → Ty → Option Conversion
  unify : (safe : Bool) → List Ty → Option Ty

namespace TypeEngine

/-- A conversion to `out`, where equal types need none. -/
def convTo (e : TypeEngine) (safe : Bool) (out src : Ty) : Option Conversion :=
  if src == out then some identityConversion else e.conversion safe src out

/-- Replaces the dynamic parts of `out` by the matching parts of `src`, so that
nulls and unknown values keep what is known of their type. -/
def fillDynamic (e : TypeEngine) : Ty → Ty → Ty
  | .dynamic, out => out
  | src, .dynamic => src
  | src, .list t => .list (fromElems src t)
  | src, .set t => .set (fromElems src t)
  | src, .map t => .map (fromEntries src t)
  | src, .object attrs => .object (fillAttrs src attrs)
  | .tuple ss, .tuple ts => .tuple (fillList ss ts)
  | _, out => out
termination_by _ out => (sizeOf out, 0)
decreasing_by all_goals simp [Prod.lex_def]
where
  fromElems (src t : Ty) : Ty :=
    match src with
    | .list s | .set s => e.fillDynamic s t
    | .tuple ss => match e.unify false ss with
      | some s => e.fillDynamic s t
      | none => t
    | _ => t
  termination_by (sizeOf t, 1)
  decreasing_by all_goals simp [Prod.lex_def]
  fromEntries (src t : Ty) : Ty :=
    match src with
    | .map s => e.fillDynamic s t
    | .object attrs => match e.unify false (attrs.map (·.2)) with
      | some s => e.fillDynamic s t
      | none => t
    | _ => t
  termination_by (sizeOf t, 1)
  decreasing_by all_goals simp [Prod.lex_def]
  fillAttrs (src : Ty) : List (String × Ty) → List (String × Ty)
    | [] => []
    | (k, t) :: rest =>
      let t' := match src with
        | .map s => e.fillDynamic s t
        | .object attrs => match lookupKey k attrs with
          | some s => e.fillDynamic s t
          | none => t
        | _ => t
      (k, t') :: fillAttrs src rest
  termination_by attrs => (sizeOf attrs, 0)
  decreasing_by all_goals simp [Prod.lex_def] <;> omega
  fillList : List Ty → List Ty → List Ty
    | s :: ss, t :: ts => e.fillDynamic s t :: fillList ss ts
    | _, ts => ts
  termination_by _ ts => (sizeOf ts, 0)
  decreasing_by all_goals simp [Prod.lex_def] <;> omega

/-- Brings values to the type they have in common. -/
def alike (e : TypeEngine) (safe : Bool) (vs : List Value) :
    Except ConversionError (List Value) :=
  match e.unify safe (vs.map Value.type) with
  | none => .error .noCommonType
  | some ty => vs.mapM fun v => ((e.convTo safe ty v.type).getD identityConversion) v

/-- Brings the values of entries to the type they have in common, if they are
collections or objects. -/
def alikeEntries (e : TypeEngine) (safe : Bool) (elem : Ty) (kvs : List (String × Value)) :
    Except ConversionError (List (String × Value)) :=
  if elem.isCollection || elem.isObject then do
    return (kvs.map (·.1)).zip (← e.alike safe (kvs.map (·.2)))
  else .ok kvs

/-- A list of converted values. -/
def listFrom (vs : List Value) : Except ConversionError Value :=
  (Value.listOf vs).mapError fun _ => .mixedElements "list"

/-- A set of converted values. -/
def setFrom (vs : List Value) : Except ConversionError Value :=
  (Value.setOf vs).mapError fun _ => .mixedElements "set"

/-- A map of converted values. -/
def mapFrom (kvs : List (String × Value)) : Except ConversionError Value :=
  (Value.mapOf kvs).mapError fun _ => .mixedElements "map"

/-- The elements of a list or set as a list. A set whose size is open becomes an
unknown list. The items of a tuple count as elements. -/
def collectionToList (src out : Ty) (conv : Conversion) : Conversion
  | .list _ vs | .tuple vs => run vs
  | .set _ vs =>
    if vs.length = 1 || vs.all Value.isWhollyKnown then run vs else .ok (.unknown (.list src))
  | v => .ok v
where
  run (vs : List Value) : Except ConversionError Value := do
    let vs' ← vs.mapM conv
    if vs'.isEmpty then return .list (emptyElem out src) [] else listFrom vs'

/-- The elements of a list or set as a set. -/
def collectionToSet (src out : Ty) (conv : Conversion) : Conversion
  | .list _ vs | .set _ vs => do
    let vs' ← vs.mapM conv
    if vs'.isEmpty then return .set (emptyElem out src) [] else setFrom vs'
  | v => .ok v

/-- The entries of a map, converted. The attributes of an object count as entries. -/
def mapToMap (e : TypeEngine) (src out : Ty) (conv : Conversion) : Conversion
  | .map _ kvs | .object kvs => do
    let kvs' ← kvs.mapM fun (k, v) => do return (k, ← conv v)
    if kvs'.isEmpty then return .map (emptyElem out src) []
    else mapFrom (← e.alikeEntries true out kvs')
  | v => .ok v

/-- The type that the parts of a structure are brought to when it becomes a
collection: the wanted type or, if any is wanted, the one that they have in
common. -/
def commonPart (e : TypeEngine) (safe : Bool) (want : Ty) (parts : List Ty) : Option Ty :=
  if want.isDynamic then e.unify safe parts else some want

/-- The common type of the items of a tuple. It stays open only if all of theirs
are. -/
def commonElem (e : TypeEngine) (safe : Bool) (want : Ty) (parts : List Ty) : Option Ty := do
  let elem ← e.commonPart safe want parts
  if want.isDynamic && elem.isDynamic && !parts.all Ty.isDynamic then none else some elem

def tupleToList (e : TypeEngine) (safe : Bool) (parts : List Ty) (want : Ty) :
    Option Conversion := do
  if parts.isEmpty then return fun _ => .ok (.list want [])
  let elem ← e.commonElem safe want parts
  let convs ← parts.mapM (e.convTo safe elem)
  return fun
    | .tuple vs => do listFrom (← e.alike safe (← convertItems convs vs))
    | v => .ok v

def tupleToSet (e : TypeEngine) (safe : Bool) (parts : List Ty) (want : Ty) :
    Option Conversion := do
  if parts.isEmpty then return fun _ => .ok (.set want [])
  let elem ← e.commonElem safe want parts
  let convs ← parts.mapM (e.convTo safe elem)
  return fun
    | .tuple vs => do setFrom (← convertItems convs vs)
    | v => .ok v

/-- The attributes as entries. Nulls take the type of the others. -/
def objectToMap (e : TypeEngine) (safe : Bool) (attrs : List (String × Ty)) (want : Ty) :
    Option Conversion := do
  if attrs.isEmpty then return fun _ => .ok (.map want [])
  let elem ← e.commonPart safe want (attrs.map (·.2))
  let convs ← attrs.mapM fun (k, s) => do return (k, ← e.convTo safe elem s)
  return fun
    | .object kvs => do
      let kvs' ← e.alikeEntries safe elem (← convertEntries convs kvs)
      (Value.mapOf kvs').mapError fun _ => .mixedAttributes
    | v => .ok v

/-- The entries as attributes; each attribute needs one. -/
def mapToObject (e : TypeEngine) (src : Ty) (attrs : List (String × Ty)) : Option Conversion := do
  let convs ← attrs.mapM fun (k, t) => do return (k, ← e.convTo false t src)
  return fun
    | .map _ kvs => do
      let kvs' ← convertEntries convs kvs
      match attrs.find? fun (k, _) => !kvs'.any (·.1 = k) with
      | some (k, _) => throw (.missingElement k)
      | none => return .object kvs'
    | v => .ok v

/-- The conversion of values that are known and not null. -/
def step (e : TypeEngine) (safe : Bool) (src out : Ty) : Option Conversion :=
  match src, out with
  | _, .dynamic => some identityConversion
  | .dynamic, _ => if safe then none else some identityConversion
  | .object ss, .object ts => do
    let convs ← ts.mapM fun (k, t) => do
      let s ← lookupKey k ss
      let conv ← e.convTo safe t s
      return (k, conv)
    return fun
      | .object kvs => do return .object (← convertEntries convs kvs)
      | v => .ok v
  | .tuple ss, .tuple ts =>
    if ss.length ≠ ts.length then none
    else do
      let convs ← (ts.zip ss).mapM fun (t, s) => e.convTo safe t s
      return fun
        | .tuple vs => do return .tuple (← convertItems convs vs)
        | v => .ok v
  | .list s, .list t | .set s, .list t => (e.convTo safe t s).map (collectionToList s t)
  | .list s, .set t =>
    if safe then none else (e.convTo safe t s).map (collectionToSet s t)
  | .set s, .set t => (e.convTo safe t s).map (collectionToSet s t)
  | .map s, .map t => (e.convTo safe t s).map (e.mapToMap s t)
  | .tuple ss, .list t => e.tupleToList safe ss t
  | .tuple ss, .set t => e.tupleToSet safe ss t
  | .object ss, .map t => e.objectToMap safe ss t
  | .map s, .object ts => if safe then none else e.mapToObject s ts
  | src, out => primitiveConversion safe src out

/-- What is known of an unknown value after its conversion to `out`. -/
def convertedHint (src out : Ty) (v : Value) : Value :=
  let notNull := v.isNeverNull
  let sized (lo hi : Nat) : Value := .ofHint out { notNull, minLength := lo, maxLength := hi }
  match src, out with
  | .object attrs, .map _ => sized attrs.length attrs.length
  | .tuple ts, .list _ => sized ts.length ts.length
  | .tuple ts, .set _ => sized (min 1 ts.length) ts.length
  | _, _ =>
    if src.isCollection && out.isCollection then
      let (lo, hi) := v.lengthBounds
      sized (if out.isSet then min 1 lo else lo) hi
    else if notNull then .unknownNotNull out
    else .unknown out

/-- A conversion passes nulls and unknown values on with their type changed. -/
def guarded (e : TypeEngine) (out : Ty) (conv : Conversion) : Conversion
  | .null ty => .ok (.null (if out.isDynamic then ty else e.fillDynamic ty out))
  | .unknown ty h =>
    if out.isDynamic then .ok (.unknown ty h)
    else .ok (convertedHint ty (e.fillDynamic ty out) (.unknown ty h))
  | v => conv v

/-- The element types of all types of one kind of collection. -/
def elemTypes (tys : List Ty) : List Ty := tys.filterMap Ty.elem?

def attrsOf : Ty → List (String × Ty)
  | .object attrs => attrs
  | _ => []

def itemsOf : Ty → List Ty
  | .tuple ts => ts
  | _ => []

/-- A type if all given types convert to it. -/
def reachable (e : TypeEngine) (safe : Bool) (tys : List Ty) (out : Ty) : Option Ty :=
  if tys.all fun t => (e.convTo safe out t).isSome then some out else none

/-- The first preferred type that all others convert to. -/
def general (e : TypeEngine) (safe : Bool) (tys : List Ty) : Option Ty :=
  ((Ty.preferred tys).filterMap (tys[·]?)).findSome? (e.reachable safe tys)

/-- A map type for objects of different shapes. -/
def objectsToMap (e : TypeEngine) (safe : Bool) (tys : List Ty) : Option Ty := do
  let elem ← e.unify safe (tys.flatMap fun t => (attrsOf t).map (·.2))
  e.reachable safe tys (.map elem)

/-- A list type for tuples of different lengths. -/
def tuplesToList (e : TypeEngine) (safe : Bool) (tys : List Ty) : Option Ty := do
  let elem ← e.unify safe (tys.flatMap itemsOf)
  e.reachable safe tys (.list elem)

/-- One type for objects: attribute by attribute if they have the same names. -/
def unifyObjects (e : TypeEngine) (safe : Bool) (tys : List Ty) : Option Ty :=
  let names (t : Ty) := (attrsOf t).map (·.1)
  match tys with
  | [] => none
  | first :: _ =>
    if tys.all fun t => names t == names first then do
      let attrs ← (names first).mapM fun k => do
        let across ← tys.mapM fun t => lookupKey k (attrsOf t)
        return (k, ← e.unify safe across)
      (e.reachable safe tys (.object attrs)) <|> e.objectsToMap safe tys
    else e.objectsToMap safe tys

/-- One type for tuples: place by place if they have the same length. -/
def unifyTuples (e : TypeEngine) (safe : Bool) (tys : List Ty) : Option Ty :=
  match tys with
  | [] => none
  | first :: _ =>
    let len := (itemsOf first).length
    if tys.all fun t => (itemsOf t).length == len then do
      let items ← (List.range len).mapM fun i => do
        let across ← tys.mapM fun t => (itemsOf t)[i]?
        e.unify safe across
      (e.reachable safe tys (.tuple items)) <|> e.tuplesToList safe tys
    else e.tuplesToList safe tys

/-- One type for collections of one kind. -/
def unifyElems (e : TypeEngine) (safe : Bool) (wrap : Ty → Ty) (tys : List Ty) :
    Option Ty := do
  let elem ← e.unify safe (elemTypes tys)
  e.reachable safe tys (wrap elem)

/-- One type for maps and objects: the objects as one map, then all as maps. -/
def objectsAsMaps (e : TypeEngine) (safe : Bool) (tys : List Ty) : Option Ty := do
  let map ← e.objectsToMap safe (tys.filter Ty.isObject)
  e.unifyElems safe .map (tys.map fun t => if t.isObject then map else t)

/-- One type for lists and tuples: the tuples as one list, then all as lists. -/
def tuplesAsLists (e : TypeEngine) (safe : Bool) (tys : List Ty) : Option Ty := do
  let list ← e.tuplesToList safe (tys.filter Ty.isTuple)
  e.unifyElems safe .list (tys.map fun t => if t.isTuple then list else t)

/-- One type for all given types. Structures and collections of one kind combine
part by part, unless one of the types is still open. -/
def unifyStep (e : TypeEngine) (safe : Bool) (tys : List Ty) : Option Ty :=
  let isOpen := tys.any Ty.isDynamic
  let only (p : Ty → Bool) := tys.any p && tys.all fun t => p t || t.isDynamic
  let mixed (p q : Ty → Bool) := tys.any p && tys.all fun t => p t || q t || t.isDynamic
  let closed (result : Option Ty) := if isOpen then some Ty.dynamic else result
  if only Ty.isMap then closed (e.unifyElems safe .map tys)
  else if mixed Ty.isMap Ty.isObject then
    (if isOpen then none else e.objectsAsMaps safe tys) <|> e.general safe tys
  else if only Ty.isList then closed (e.unifyElems safe .list tys)
  else if mixed Ty.isList Ty.isTuple then
    (if isOpen then none else e.tuplesAsLists safe tys) <|> e.general safe tys
  else if only Ty.isSet then closed (e.unifyElems safe .set tys)
  else if only Ty.isObject then closed (e.unifyObjects safe tys)
  else if only Ty.isTuple then closed (e.unifyTuples safe tys)
  else if tys.any Ty.isObject && tys.any Ty.isTuple then none
  else e.general safe tys

/-- The type as which values of type `ty` are brought to `out`, the common type of
`tys`. Among lists the tuples have become one list type, and among maps the objects one
map type; where that is not yet `out`, their values are taken to have it. -/
def viaType (e : TypeEngine) (safe : Bool) (tys : List Ty) (out ty : Ty) : Ty :=
  let mixed (p q : Ty → Bool) := q ty && tys.any p && tys.all fun t => p t || q t
  let merged :=
    if mixed Ty.isList Ty.isTuple then
      (e.tuplesAsLists safe tys).bind fun _ => e.tuplesToList safe (tys.filter Ty.isTuple)
    else if mixed Ty.isMap Ty.isObject then
      (e.objectsAsMaps safe tys).bind fun _ => e.objectsToMap safe (tys.filter Ty.isObject)
    else none
  match merged with
  | some t => if t == out then ty else t
  | none => ty

end TypeEngine

/-- Ties the knot: types of depth below `n` convert. -/
def typeEngine : Nat → TypeEngine
  | 0 => { conversion := fun _ _ _ => none, unify := fun _ _ => none }
  | n + 1 =>
    let below := typeEngine n
    let conversion := fun safe src out =>
      (below.step safe src out).map (below.guarded out)
    { conversion, unify := TypeEngine.unifyStep { conversion, unify := below.unify } }

/-- An engine that reaches through all given types. -/
def engineFor (tys : List Ty) : TypeEngine :=
  typeEngine (2 * (tys.map Ty.depth).foldl max 1 + 2)

namespace Ty

/-- Whether (and how) values of `src` convert to `out`. -/
def conversion? (safe : Bool) (src out : Ty) : Option Conversion :=
  (engineFor [src, out]).conversion safe src out

/-- One type that all given types convert to. -/
def unify (safe : Bool) (tys : List Ty) : Option Ty := (engineFor tys).unify safe tys

/-- One type that all given types convert to, and how the values of each do. -/
def unifyWith (safe : Bool) (tys : List Ty) : Option (Ty × List Conversion) := do
  let e := engineFor tys
  let out ← e.unify safe tys
  let convs ← tys.mapM fun t => e.convTo safe out (e.viaType safe tys out t)
  return (out, convs)

end Ty

end GraphWalk
