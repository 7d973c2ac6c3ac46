import GraphWalk.Json.Parse
import GraphWalk.Value.Conversion
import GraphWalk.Value.Literal

/-!
# JSON texts of values

`Value.toJson?` writes a known value; a part that has the dynamic type in the
type it is written for carries its own type along. `Value.ofJson` reads a
document as a value of a given type, and `Json.impliedType` is the type a
document has by itself.
-/

namespace GraphWalk

/-- Why a value has no JSON text. -/
inductive WriteError where
  | unknownValue
  | infinite
deriving Repr, DecidableEq

def WriteError.message : WriteError → String
  | .unknownValue => "value is not known"
  | .infinite => "cannot serialize infinity as JSON"

namespace Value

mutual

/-- The JSON document of a value, without types. -/
def toPlainJson : Value → Except WriteError Json
  | .null _ => .ok .null
  | .unknown _ _ => .error .unknownValue
  | .bool b => .ok (.bool b)
  | .number n => if n.isInfinite then .error .infinite else .ok (.num n.text)
  | .string s => .ok (.str s)
  | .list _ vs | .set _ vs | .tuple vs => do return .arr (← plainItems vs)
  | .map _ kvs | .object kvs => do return .obj (← plainEntries kvs)

def plainItems : List Value → Except WriteError (List Json)
  | [] => .ok []
  | v :: vs => do
    let j ← v.toPlainJson
    let js ← plainItems vs
    return j :: js

def plainEntries : List (String × Value) → Except WriteError (List (String × Json))
  | [] => .ok []
  | (k, v) :: rest => do
    let j ← v.toPlainJson
    let js ← plainEntries rest
    return (k, j) :: js

end

/-- A document together with the type it is to be read as. -/
def withType (j : Json) (ty : Ty) : Json := .obj [("value", j), ("type", ty.toJson)]

mutual

/-- The JSON document of a value written for the type `ty`. Where `ty` is dynamic
and the value has a type of its own, that type is written along. -/
def toJsonFor : Ty → Value → Except WriteError Json
  | .dynamic, v =>
    if v.type == .dynamic then v.toPlainJson
    else do return withType (← v.toPlainJson) v.type
  | _, .null _ => .ok .null
  | _, .unknown _ _ => .error .unknownValue
  | .list t, .list _ vs | .set t, .set _ vs => do return .arr (← itemsFor t vs)
  | .map t, .map _ kvs => do return .obj (← entriesFor t kvs)
  | .object ts, .object kvs => do return .obj (← attrsFor ts kvs)
  | .tuple ts, .tuple vs => do return .arr (← placesFor ts vs)
  | _, v => v.toPlainJson

def itemsFor (t : Ty) : List Value → Except WriteError (List Json)
  | [] => .ok []
  | v :: vs => do
    let j ← toJsonFor t v
    let js ← itemsFor t vs
    return j :: js

def entriesFor (t : Ty) : List (String × Value) → Except WriteError (List (String × Json))
  | [] => .ok []
  | (k, v) :: rest => do
    let j ← toJsonFor t v
    let js ← entriesFor t rest
    return (k, j) :: js

def attrsFor : List (String × Ty) → List (String × Value) →
    Except WriteError (List (String × Json))
  | (_, t) :: ts, (k, v) :: rest => do
    let j ← toJsonFor t v
    let js ← attrsFor ts rest
    return (k, j) :: js
  | _, _ => .ok []

def placesFor : List Ty → List Value → Except WriteError (List Json)
  | t :: ts, v :: vs => do
    let j ← toJsonFor t v
    let js ← placesFor ts vs
    return j :: js
  | _, _ => .ok []

end

/-- The JSON text of a value for its own type. -/
def jsonText (v : Value) : Except WriteError String :=
  v.toPlainJson.map Json.render

end Value

mutual

/-- The type of a document: objects are objects, arrays are tuples and null is of
dynamic type. -/
def Json.impliedType : Json → Ty
  | .null => .dynamic
  | .bool _ => .bool
  | .num _ => .number
  | .str _ => .string
  | .arr items => .tuple (impliedTypes items)
  | .obj members => .ofAttrs (impliedAttrs members)

def impliedTypes : List Json → List Ty
  | [] => []
  | j :: js => j.impliedType :: impliedTypes js

def impliedAttrs : List (String × Json) → List (String × Ty)
  | [] => []
  | (k, j) :: rest => (k, j.impliedType) :: impliedAttrs rest

end

/-- Why a document is not a value of a type. -/
inductive ReadError where
  | fault (f : Json.SyntaxFault)
  | keyFault (f : Json.SyntaxFault)
  | valueFault (f : Json.SyntaxFault)
  | required (kind : String)
  | conversion (e : ConversionError)
  | missingDelim (c : Char)
  | unsupportedAttribute (name : String)
  | tooManyItems (need : Nat)
  | notEnoughItems (need : Nat)
  | invalidDynamicKey (name : String)
  | missingDynamicType
  | missingDynamicValue
  | undecodableType (f : Ty.ReadFault)
  | mixedElements (kind : String) (first other : Ty)
  | tooDeep
deriving Repr, BEq

def ReadError.message : ReadError → String
  | .fault f => f.message
  | .keyFault f => "failed to read object key: " ++ f.message
  | .valueFault f => "failed to read object value: " ++ f.message
  | .required kind => kind ++ " is required"
  | .conversion e => e.message
  | .missingDelim c => "missing expected " ++ c.toString
  | .unsupportedAttribute name => "unsupported attribute " ++ Text.quote name
  | .tooManyItems need => "too many tuple elements (need " ++ toString need ++ ")"
  | .notEnoughItems need => "not enough tuple elements (need " ++ toString need ++ ")"
  | .invalidDynamicKey name =>
    "invalid key " ++ Text.quote name ++ " in dynamically-typed value"
  | .missingDynamicType => "missing type in dynamically-typed value"
  | .missingDynamicValue => "missing value in dynamically-typed value"
  | .undecodableType (.undeclaredOptional name) => (Ty.ReadFault.undeclaredOptional name).message
  | .undecodableType f => "failed to decode type for dynamic value: " ++ f.message
  | .mixedElements kind first other =>
    "inconsistent " ++ kind ++ " element types (" ++ first.literal ++ " then " ++ other.literal
      ++ ")"
  | .tooDeep => "exceeded max depth"

/-- Whether reading breaks off altogether: the document asks for a value that cannot
be built at all. -/
def ReadError.isFatal : ReadError → Bool
  | .mixedElements _ _ _ | .undecodableType (.undeclaredOptional _) => true
  | _ => false

namespace Value

/-- A document as a primitive value; strings and the other primitives are read as
each other where the text allows it. -/
def ofJsonPrimitive (ty : Ty) (j : Json) : Except ReadError Value :=
  match ty, j with
  | .bool, .bool b => .ok (.bool b)
  | .bool, .str s => match (Value.text s).convert .bool with
    | .ok v => .ok v
    | .error e => .error (.conversion e)
  | .bool, _ => .error (.required "bool")
  | .number, .num s | .number, .str s => match Number.read? s with
    | some n => .ok (.number n)
    | none => .error (.conversion .notANumber)
  | .number, _ => .error (.required "number")
  | _, .str s => .ok (.text s)
  | _, .num s => .ok (.text s)
  | _, .bool b => .ok (.string (if b then "true" else "false"))
  | _, _ => .error (.required "string")

/-- Refuses elements of different types. -/
def builtAs (kind : String) (r : Except (Ty × Ty) Value) : Except ReadError Value :=
  r.mapError fun (first, other) => .mixedElements kind first other

/-- The type and the document that the members of a dynamic value name. Members
count in order, and of two with one name the later one does. -/
def dynamicParts (ty : Option Ty) (value : Option Json) :
    List (String × Json) → Except ReadError (Ty × Json)
  | [] => match ty, value with
    | none, _ => .error .missingDynamicType
    | some _, none => .error .missingDynamicValue
    | some t, some v => .ok (t, v)
  | (k, j) :: rest =>
    if k = "type" then match Ty.read j with
      | .ok t => dynamicParts (some t) value rest
      | .error f => .error (.undecodableType f)
    else if k = "value" then dynamicParts ty (some j) rest
    else .error (.invalidDynamicKey k)

mutual

/-- Reads a document as a value of type `ty`. A document inside a dynamic value
names its own type, so the depth of the document bounds the calls: `fuel`. -/
def ofJson (fuel : Nat) (ty : Ty) (j : Json) : Except ReadError Value :=
  match fuel with
  | 0 => .error .tooDeep
  | fuel + 1 =>
    match j, ty with
    | .null, ty => .ok (.null ty)
    | j, .dynamic =>
      match j with
      | .obj members => do
        let (t, v) ← dynamicParts none none members
        ofJson fuel t v
      | _ => .error (.missingDelim '\x7b')
    | .arr items, .list t => do
      let vs ← ofJsonItems fuel t items
      if vs.isEmpty then return .list t [] else builtAs "list" (listOf vs)
    | .arr items, .set t => do
      let vs ← ofJsonItems fuel t items
      if vs.isEmpty then return .set t [] else builtAs "set" (setOf vs)
    | _, .list _ | _, .set _ => .error (.missingDelim '[')
    | .obj members, .map t => do
      let kvs ← ofJsonMembers fuel t members
      if kvs.isEmpty then return .map t [] else builtAs "map" (mapOf (sortKeys kvs))
    | .obj members, .object attrs => do
      let kvs ← ofJsonAttrs fuel attrs members
      return .object (attrs.map fun (k, t) => (k, (lookupKey k kvs.reverse).getD (.null t)))
    | _, .map _ | _, .object _ => .error (.missingDelim '\x7b')
    | .arr items, .tuple ts => do
      let vs ← ofJsonPlaces fuel ts.length ts items
      if vs.length < ts.length then throw (.notEnoughItems ts.length)
      return .tuple vs
    | _, .tuple _ => .error (.missingDelim '[')
    | j, ty => ofJsonPrimitive ty j
termination_by (fuel, 0)
decreasing_by all_goals simp [Prod.lex_def]

def ofJsonItems (fuel : Nat) (t : Ty) : List Json → Except ReadError (List Value)
  | [] => .ok []
  | j :: js => do
    let v ← ofJson fuel t j
    let vs ← ofJsonItems fuel t js
    return v :: vs
termination_by js => (fuel, js.length + 1)
decreasing_by all_goals simp [Prod.lex_def]

def ofJsonMembers (fuel : Nat) (t : Ty) :
    List (String × Json) → Except ReadError (List (String × Value))
  | [] => .ok []
  | (k, j) :: rest => do
    let v ← ofJson fuel t j
    let kvs ← ofJsonMembers fuel t rest
    return (k, v) :: kvs
termination_by members => (fuel, members.length + 1)
decreasing_by all_goals simp [Prod.lex_def]

def ofJsonAttrs (fuel : Nat) (attrs : List (String × Ty)) :
    List (String × Json) → Except ReadError (List (String × Value))
  | [] => .ok []
  | (k, j) :: rest =>
    match lookupKey k attrs with
    | none => .error (.unsupportedAttribute k)
    | some t => do
      let v ← ofJson fuel t j
      let kvs ← ofJsonAttrs fuel attrs rest
      return (k, v) :: kvs
termination_by members => (fuel, members.length + 1)
decreasing_by all_goals simp [Prod.lex_def]

def ofJsonPlaces (fuel need : Nat) : List Ty → List Json → Except ReadError (List Value)
  | _, [] => .ok []
  | [], _ :: _ => .error (.tooManyItems need)
  | t :: ts, j :: js => do
    let v ← ofJson fuel t j
    let vs ← ofJsonPlaces fuel need ts js
    return v :: vs
termination_by _ js => (fuel, js.length + 1)
decreasing_by all_goals simp [Prod.lex_def]

end

end Value

mutual

/-- The nesting depth of a document. -/
def Json.depth : Json → Nat
  | .arr items => depthItems items + 1
  | .obj members => depthMembers members + 1
  | _ => 1

def depthItems : List Json → Nat
  | [] => 0
  | j :: js => max j.depth (depthItems js)

def depthMembers : List (String × Json) → Nat
  | [] => 0
  | (_, j) :: rest => max j.depth (depthMembers rest)

end

namespace Value

/-- Reads a document as a value of type `ty`. -/
def decode (ty : Ty) (j : Json) : Except ReadError Value := ofJson (j.depth + 1) ty j

/-- Reads a document as a value of the type it has by itself. -/
def decodeImplied (j : Json) : Except ReadError Value := decode j.impliedType j

/-- The start of the next member of an object text, or the end of the object. A
separator belongs before every member but the first. -/
def nextMember (first : Bool) (cs : List Char) : Except ReadError (Option (List Char)) :=
  let separated := "after object key:value pair"
  let beginning := "looking for beginning of value"
  let closes (c : Char) : Bool := c = '\x7d' || c = ']'
  match Json.skipBlanks cs with
  | [] => .error (.keyFault .atEnd)
  | c :: rest =>
    if c = ',' || c = ':' then
      match Json.skipBlanks rest with
      | [] =>
        if first then .error (.keyFault (.invalid c beginning))
        else if c = ',' then .error (.keyFault .atEnd)
        else .error (.keyFault (.invalid c separated))
      | n :: more =>
        if first || closes n then .error (.keyFault (.invalid c beginning))
        else if c = ',' then .ok (some (n :: more))
        else .error (.keyFault (.invalid c separated))
    else if c = '\x7d' then .ok none
    else if c = ']' then .error (.fault (.invalid c (if first then beginning else separated)))
    else if first then .ok (some (c :: rest))
    else .error (.keyFault (.invalid c separated))

/-- The name of a member and what follows it. -/
def memberName (cs : List Char) : Except Json.SyntaxFault (String × List Char) :=
  match cs with
  | '"' :: rest => Json.readString (rest.length + 1) rest []
  | '[' :: _ | '\x7b' :: _ => .error .nameRequired
  | cs => match Json.readValue cs with
    | .ok _ => .error .nameRequired
    | .error f => .error f

/-- The document behind the name of a member. -/
def memberValue (cs : List Char) : Except Json.SyntaxFault (Json × List Char) :=
  match Json.skipBlanks cs with
  | ':' :: rest => Json.readValue rest
  | rest => .error (Json.faultAt "after object key" rest)

/-- Reads the members of an object text one after the other, so that the first
fault counts, in the text or in a member. `first` says that no member has been
read. -/
def readMembers (attrs : List (String × Ty)) (fuel : Nat) (first : Bool)
    (acc : List (String × Value)) (cs : List Char) :
    Except ReadError (List (String × Value)) :=
  match fuel with
  | 0 => .error (.fault .unexpectedEnd)
  | fuel + 1 => do
    match ← nextMember first cs with
    | none => return acc
    | some cs =>
      let (k, rest) ← (memberName cs).mapError .keyFault
      match lookupKey k attrs with
      | none => throw (.unsupportedAttribute k)
      | some t =>
        let (j, rest) ← (memberValue rest).mapError .valueFault
        let v ← decode t j
        readMembers attrs fuel false (acc ++ [(k, v)]) rest

/-- Reads a text as a value of the object type with the given attributes.
Attributes that the text does not name are null; what follows the closing brace
does not count. -/
def decodeObjectText (attrs : List (String × Ty)) (text : String) : Except ReadError Value :=
  match Json.skipBlanks text.toList with
  | [] => .error (.fault .atEnd)
  | '\x7b' :: rest => do
    let kvs ← readMembers attrs (rest.length + 1) true [] rest
    return .object (attrs.map fun (k, t) => (k, (lookupKey k kvs.reverse).getD (.null t)))
  | cs => match Json.readValue cs with
    | .ok (.null, _) => .ok (.null (.object attrs))
    | .ok _ => .error (.missingDelim '\x7b')
    | .error f => if cs.head? = some '[' then .error (.missingDelim '\x7b') else .error (.fault f)

end Value

end GraphWalk
