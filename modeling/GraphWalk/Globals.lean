import GraphWalk.Value.Conversion

/-!
# Global variables

Every global belongs to a module. A module sees its own globals and the public
ones of the modules it imports; its own come first, then those of the imports in
their order. A write converts to the type of the current value, unless that is
null or of dynamic type.
-/

namespace GraphWalk

structure Global where
  module : String
  name : String
  value : Value
  isPrivate : Bool
deriving Repr, BEq, Inhabited

/-- Why a global cannot be declared, read or written. -/
inductive GlobalError where
  | duplicate (module name : String)
  | unknown (module name : String)
  | notVisible (module name : String)
  | wrongType (module name : String) (want : Ty) (why : ConversionError)
deriving Repr

def GlobalError.message : GlobalError → String
  | .duplicate module name => "duplicate global: " ++ module ++ "." ++ name
  | .unknown module name =>
    "unknown global: " ++ Text.quote name ++ " in module " ++ Text.quote module
  | .notVisible module name =>
    "global is private to its module: " ++ Text.quote name ++ " from module "
      ++ Text.quote module
  | .wrongType module name want why =>
    "global " ++ module ++ "." ++ name ++ " expects " ++ want.friendlyName ++ ": "
      ++ why.message

/-- All globals in order of declaration, and the imports of every module. -/
structure GlobalTable where
  vars : List Global
  imports : List (String × List String)
deriving Repr, BEq, Inhabited

namespace GlobalTable

def empty : GlobalTable := ⟨[], []⟩

/-- The variable `name` of exactly this module. -/
def find? (t : GlobalTable) (module name : String) : Option Global :=
  t.vars.find? fun g => g.module = module ∧ g.name = name

/-- The modules that a module imports. -/
def importsOf (t : GlobalTable) (module : String) : List String :=
  (lookupKey module t.imports).getD []

def declare (t : GlobalTable) (module name : String) (value : Value) (isPrivate : Bool) :
    Except GlobalError GlobalTable :=
  match t.find? module name with
  | some _ => .error (.duplicate module name)
  | none => .ok { t with vars := t.vars ++ [⟨module, name, value, isPrivate⟩] }

def setImports (t : GlobalTable) (module : String) (imports : List String) : GlobalTable :=
  { t with imports := (module, imports) :: t.imports.filter (·.1 ≠ module) }

/-- The variable a name stands for in a module. -/
def resolve (t : GlobalTable) (module name : String) : Except GlobalError Global :=
  match t.find? module name with
  | some g => .ok g
  | none =>
    let found := (t.importsOf module).filterMap fun m => t.find? m name
    match found.find? fun g => !g.isPrivate with
    | some g => .ok g
    | none =>
      if found.isEmpty then .error (.unknown module name)
      else .error (.notVisible module name)

def get (t : GlobalTable) (module name : String) : Except GlobalError Value :=
  (t.resolve module name).map (·.value)

/-- The value that a write of `v` stores in `g`. -/
def assigned (g : Global) (v : Value) : Except GlobalError Value :=
  if g.value.isNull || g.value.type == .dynamic then .ok v
  else match v.convert g.value.type with
    | .ok v' => .ok v'
    | .error e => .error (.wrongType g.module g.name g.value.type e)

def set (t : GlobalTable) (module name : String) (v : Value) :
    Except GlobalError GlobalTable := do
  let g ← t.resolve module name
  let v' ← assigned g v
  return { t with vars := t.vars.map fun h =>
    if h.module = g.module ∧ h.name = g.name then { h with value := v' } else h }

/-- All globals a module sees, by name. -/
def visible (t : GlobalTable) (module : String) : List (String × Value) :=
  let imported := (t.importsOf module).reverse.flatMap fun m =>
    (t.vars.filter fun g => g.module = m ∧ !g.isPrivate).map fun g => (g.name, g.value)
  let own := (t.vars.filter (·.module = module)).map fun g => (g.name, g.value)
  sortKeys (imported ++ own)

/-- All globals, by module and name. -/
def all (t : GlobalTable) : List Global :=
  t.vars.mergeSort fun a b => a.module < b.module || (a.module = b.module && !(b.name < a.name))

end GlobalTable

end GraphWalk
