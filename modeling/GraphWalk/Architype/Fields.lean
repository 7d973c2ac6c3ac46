import GraphWalk.Value.Conversion

/-!
# Typed fields

A field set holds one value for every definition of an architype, each converted
to its declared type. Setting a field converts the new value or changes nothing.
-/

namespace GraphWalk

/-- A declared field. Without a default its first value is null. -/
structure FieldDef where
  name : String
  type : Ty
  default : Option Value
deriving Repr, BEq, Inhabited

/-- Why a field cannot be read or set. -/
inductive FieldError where
  | unknown (name : String)
  | wrongType (name : String) (want : Ty) (why : ConversionError)
  | badDefault (name : String) (why : ConversionError)
deriving Repr

def FieldError.message : FieldError → String
  | .unknown name => "unknown field: " ++ Text.quote name
  | .wrongType name want why =>
    "field type mismatch: field " ++ Text.quote name ++ " expects " ++ want.friendlyName
      ++ ": " ++ why.message
  | .badDefault name why => "default for field " ++ Text.quote name ++ ": " ++ why.message

/-- A definition with its current value. -/
structure FieldSlot where
  field : FieldDef
  value : Value
deriving Repr, BEq, Inhabited

/-- The fields of an instance, in declaration order. -/
structure Fields where
  slots : List FieldSlot
deriving Repr, BEq, Inhabited

namespace Fields

def empty : Fields := ⟨[]⟩

/-- The slot a name stands for: the last one of that name. -/
def slot? (f : Fields) (name : String) : Option FieldSlot :=
  f.slots.reverse.find? (·.field.name = name)

/-- Replaces the value of the first slot named `name` in a reversed list. -/
def replaceFirst (name : String) (v : Value) : List FieldSlot → List FieldSlot
  | [] => []
  | s :: rest =>
    if s.field.name = name then { s with value := v } :: rest
    else s :: replaceFirst name v rest

/-- The current value of a field. -/
def get (f : Fields) (name : String) : Except FieldError Value :=
  match f.slot? name with
  | some s => .ok s.value
  | none => .error (.unknown name)

/-- Converts a value to the declared type and stores it. -/
def set (f : Fields) (name : String) (v : Value) : Except FieldError Fields :=
  match f.slot? name with
  | none => .error (.unknown name)
  | some s => match v.convert s.field.type with
    | .ok v' => .ok ⟨(replaceFirst name v' f.slots.reverse).reverse⟩
    | .error e => .error (.wrongType name s.field.type e)

/-- The first value of a definition: its default, or null. -/
def initial (d : FieldDef) : Except FieldError FieldSlot :=
  let v := match d.default with
    | some v => if v.isNull then Value.null d.type else v
    | none => Value.null d.type
  match v.convert d.type with
  | .ok v' => .ok ⟨d, v'⟩
  | .error e => .error (.badDefault d.name e)

/-- Sets several fields one after the other. -/
def setAll (f : Fields) : List (String × Value) → Except FieldError Fields
  | [] => .ok f
  | (k, v) :: rest => do
    let f' ← f.set k v
    f'.setAll rest

/-- The field set of an instance: defaults first, then the given values. -/
def new (defs : List FieldDef) (init : List (String × Value)) : Except FieldError Fields := do
  let slots ← defs.mapM initial
  setAll ⟨slots⟩ init

/-- The declared names, in order. -/
def names (f : Fields) : List String := f.slots.map (·.field.name)

/-- The declared type of a field. -/
def type? (f : Fields) (name : String) : Option Ty := (f.slot? name).map (·.field.type)

/-- All values by name; of several fields with one name the last counts. -/
def toEntries (f : Fields) : List (String × Value) :=
  sortKeys (f.slots.map fun s => (s.field.name, s.value))

/-- All values as one object. -/
def object (f : Fields) : Value := .ofAttrs f.toEntries

end Fields

end GraphWalk
