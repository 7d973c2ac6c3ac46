import GraphWalk.Architype.Basic

/-!
# The registry

All architypes and ability definitions of a set of modules, each in the order of
registration. Registering what is there already changes nothing; registering
something that conflicts fails and changes nothing. A frozen registry never
changes again.
-/

namespace GraphWalk

/-- Where a definition was written: equal origins are the same piece of source. -/
structure Origin where
  label : String
  stamp : Nat
  element : Nat
  ability : Nat
deriving Repr, DecidableEq, Inhabited

/-- A body that waits to be bound to the slot at its path. -/
structure Definition where
  path : Path
  module : String
  body : Body
  origin : Option Origin
deriving Inhabited

/-- What a declaration says about an architype. -/
structure ArchSpec where
  bases : List String
  fields : List FieldDef
  directed : Bool
deriving Inhabited

/-- What a declaration says about an ability slot. -/
structure AbilitySpec where
  name : String
  signature : Signature
  isAbstract : Bool
deriving Inhabited

structure Registry where
  archs : List Architype
  defs : List Definition
  frozen : Bool
  /-- How often the registry was emptied; records of different epochs are
  different records even if they have one name. -/
  epoch : Nat
deriving Inhabited

namespace Registry

def empty : Registry := ⟨[], [], false, 0⟩

def find? (r : Registry) (key : ArchKey) : Option Architype :=
  r.archs.find? (·.key = key)

def definition? (r : Registry) (path : Path) : Option Definition :=
  r.defs.find? (·.path = path)

/-- Replaces the record with the key of `a`. -/
def replace (r : Registry) (a : Architype) : Registry :=
  { r with archs := r.archs.map fun b => if b.key = a.key then a else b }

/-- The record a declaration starts from: the registered one, or a new one. -/
def record (r : Registry) (module : String) (key : ArchKey) : Architype :=
  (r.find? key).getD (.new module key)

/-- The fields of `fields` that `a` does not have, or the first that it has with
another type. -/
def newFields (a : Architype) : List FieldDef → Except (FieldDef × FieldDef) (List FieldDef)
  | [] => .ok []
  | f :: rest => match a.field? f.name with
    | none => (newFields a rest).map (f :: ·)
    | some old => if old.type == f.type then newFields a rest else .error (f, old)

/-- Creates a record or extends the one that is there. -/
def registerArchitype (r : Registry) (module : String) (key : ArchKey) (spec : ArchSpec) :
    Except RegistryError (Registry × Architype) :=
  let fault := fun (cause : RegistryCause) (detail : String) =>
    Except.error (RegistryError.issue cause (.arch key) module detail)
  if !key.kind.isValid then .error (.invalidKind key.name)
  else
    let isNew := (r.find? key).isNone
    let a := r.record module key
    if isNew && r.frozen then fault .frozen ""
    else if !spec.bases.isEmpty && !a.baseNames.isEmpty && a.baseNames != spec.bases then
      fault .duplicateDeclaration
        ("bases " ++ bracketed spec.bases ++ " conflict with " ++ bracketed a.baseNames)
    else match newFields a spec.fields with
      | .error (f, old) =>
        fault .duplicateDeclaration
          ("field " ++ Text.quote f.name ++ " redeclared as " ++ f.type.friendlyName ++ ", was "
            ++ old.type.friendlyName)
      | .ok added =>
        let changed := isNew || (!spec.bases.isEmpty && a.baseNames.isEmpty)
          || !added.isEmpty || (spec.directed && !a.directed)
        if !changed then .ok (r, a)
        else if r.frozen then fault .frozen ""
        else
          let a' := { a with
            baseNames := if a.baseNames.isEmpty then spec.bases else a.baseNames
            module := if a.module = "" then module else a.module
            fields := a.fields ++ added
            directed := a.directed || spec.directed }
          let r' := if isNew then { r with archs := r.archs ++ [a'] } else r.replace a'
          .ok (r', a')

/-- Adds an ability slot, creating the record if needed. -/
def registerDeclaration (r : Registry) (module : String) (key : ArchKey) (spec : AbilitySpec) :
    Except RegistryError (Registry × Ability) := do
  let (r', a) ← r.registerArchitype module key ⟨[], [], false⟩
  let path : Path := ⟨key.kind, key.name, spec.name⟩
  match a.ability? spec.name with
  | some old =>
    if old.isAbstract = spec.isAbstract ∧ old.signature == spec.signature then return (r', old)
    else throw (.issue .duplicateDeclaration (.path path) module
      ("signature differs from the declaration in module " ++ Text.quote old.declModule))
  | none =>
    if r'.frozen then throw (.issue .frozen (.path path) module "")
    else
      let slot : Ability :=
        { name := spec.name, signature := spec.signature, isAbstract := spec.isAbstract,
          bound := none, declModule := module, order := a.abilities.length, owner := key }
      return (r'.replace { a with abilities := a.abilities ++ [slot] }, slot)

/-- Stores a body under its path. The slot need not exist yet. -/
def registerDefinition (r : Registry) (module : String) (path : Path) (body : Option Body)
    (origin : Option Origin) : Except RegistryError Registry :=
  match body with
  | none => .error (.noBody path module)
  | some body => match r.definition? path with
    | some old =>
      if origin.isSome ∧ old.origin = origin then .ok r
      else .error (.issue .duplicateDefinition (.path path) module
        ("already defined in module " ++ Text.quote old.module))
    | none =>
      if r.frozen then .error (.issue .frozen (.path path) module "")
      else .ok { r with defs := r.defs ++ [⟨path, module, body, origin⟩] }

def lookup (r : Registry) (key : ArchKey) : Except RegistryError Architype :=
  match r.find? key with
  | some a => .ok a
  | none => .error (.issue .notFound (.arch key) "" "")

/-- The slot at a path, inherited ones included. -/
def lookupAbility (r : Registry) (path : Path) : Except RegistryError Ability := do
  let a ← r.lookup path.key
  match a.effectiveAbilities.find? (·.name = path.ability) with
  | some slot => return slot
  | none => throw (.issue .notFound (.path path) "" "")

def freeze (r : Registry) : Registry := { r with frozen := true }

/-- Forgets everything, unless the registry is frozen. -/
def reset (r : Registry) : Registry :=
  if r.frozen then r else { empty with epoch := r.epoch + 1 }

end Registry

end GraphWalk
