import GraphWalk.Expr.Basic
import GraphWalk.Expr.Issue
import GraphWalk.Value.Conversion

/-!
# Steps into values

An attribute of an object or a map, and an element of a list, a tuple, a map or
an object.
-/

namespace GraphWalk

namespace Value

/-- An attribute by name. -/
def attributeAt (v : Value) (name : String) (line : Nat) : Outcome :=
  let name := Text.canonical name
  if v.isNull then .bad line .attributeOfNull
  else match v.type with
    | .object attrs =>
      match lookupKey name attrs with
      | none => .bad line .missingAttribute
      | some t => .ok ((v.attr? name).getD (.unknown t))
    | .map t =>
      match v with
      | .map _ kvs => match lookupKey name kvs with
        | some x => .ok x
        | none => .bad line .missingElement
      | _ => .ok (.unknown t)
    | .dynamic => .ok .anything
    | _ => .bad line .missingAttribute

/-- A place in a sequence: a whole number that is not negative. -/
def place? : Value → Option Nat
  | .number n =>
    if n.isWhole then match n.trunc? with
      | some (.ofNat i) => some i
      | _ => none
    else none
  | _ => none

/-- An element of a list; nothing is known of it while the list or the key is not. -/
def listElement (elem : Ty) (v key : Value) (line : Nat) : Outcome :=
  match key.convert .number with
  | .error _ => .bad line .invalidIndex
  | .ok key =>
    match v, key with
    | .list _ vs, .number n => match (place? (.number n)).bind (vs[·]?) with
      | some x => .ok x
      | none => .bad line .invalidIndex
    | _, _ => .ok (.unknown elem)

/-- An item of a tuple, whose type is known even while the tuple is not. -/
def tupleElement (types : List Ty) (v key : Value) (line : Nat) : Outcome :=
  match key.convert .number with
  | .error _ => .bad line .invalidIndex
  | .ok key =>
    if !key.isKnown then .ok .anything
    else match place? key with
      | none => .bad line .invalidIndex
      | some i => match v, types[i]? with
        | .tuple vs, some _ => .ok (vs[i]?.getD .anything)
        | _, some t => .ok (.unknown t)
        | _, none => .bad line .invalidIndex

def mapElement (elem : Ty) (v key : Value) (line : Nat) : Outcome :=
  match key.convert .string with
  | .error _ => .bad line .invalidIndex
  | .ok key =>
    match v, key with
    | .map _ kvs, .string k => match lookupKey k kvs with
      | some x => .ok x
      | none => .bad line .invalidIndex
    | _, _ => .ok (.unknown elem)

def objectElement (attrs : List (String × Ty)) (v key : Value) (line : Nat) : Outcome :=
  match key.convert .string with
  | .error _ => .bad line .invalidIndex
  | .ok key =>
    match v, key with
    | .object kvs, .string k =>
      if (lookupKey k attrs).isSome then .ok ((lookupKey k kvs).getD .anything)
      else .bad line .invalidIndex
    | _, _ => .ok .anything

/-- An element by key. -/
def elementAt (v key : Value) (line : Nat) : Outcome :=
  if v.isNull then .bad line .indexOfNull
  else if key.isNull then .bad line .invalidIndex
  else if key.type.isDynamic || v.type.isDynamic then .ok .anything
  else match v.type with
    | .list t => listElement t v key line
    | .tuple ts => tupleElement ts v key line
    | .map t => mapElement t v key line
    | .object attrs => objectElement attrs v key line
    | _ => .bad line .invalidIndex

end Value

/-- One step into a value. -/
def Step.apply (s : Step) (v : Value) : Outcome :=
  match s with
  | .attr name line => v.attributeAt name line
  | .index key line => v.elementAt key line

/-- Steps one after the other, up to the first issue. -/
def Step.applyAll : List Step → Value → Outcome
  | [], v => .ok v
  | s :: rest, v =>
    let o := s.apply v
    match o.issue with
    | some i => ⟨.anything, some i⟩
    | none => applyAll rest o.value

end GraphWalk
