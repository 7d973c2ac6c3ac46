import GraphWalk.Module.Order
import GraphWalk.Registry.Link

/-!
# Resolution

Resolving a set of modules registers all they declare and define, links the
architypes, binds every definition to its slot and freezes the registry. Either
all of it succeeds or nothing stays: a registry that was not frozen is emptied.
-/

namespace GraphWalk

namespace Registry

/-- Registers the slots of an architype and the definitions given with them. -/
def collectAbilities (m : Module) (element : Nat) (d : ArchDecl) :
    Nat → List AbilityDecl → Registry → Registry × List RegistryError
  | _, [], r => (r, [])
  | i, ab :: rest, r =>
    let (r', es) : Registry × List RegistryError :=
      match r.registerDeclaration m.name ⟨d.kind, d.name⟩ ⟨ab.name, ab.signature, ab.isAbstract⟩ with
      | .error e => (r, [e])
      | .ok (r', _) => match ab.body with
        | none => (r', [])
        | some _ =>
          match r'.registerDefinition m.name ⟨d.kind, d.name, ab.name⟩ ab.body
              (some ⟨m.name, m.stamp, element, i + 1⟩) with
          | .ok r'' => (r'', [])
          | .error e => (r', [e])
    let (r'', es') := collectAbilities m element d (i + 1) rest r'
    (r'', es ++ es')

/-- Registers what one element declares or defines. -/
def collectElement (m : Module) (element : Nat) (r : Registry) :
    Element → Registry × List RegistryError
  | .arch d =>
    match r.registerArchitype m.name ⟨d.kind, d.name⟩ ⟨d.bases, d.fields, d.directed⟩ with
    | .error e => (r, [e])
    | .ok (r', _) => collectAbilities m element d 0 d.abilities r'
  | .impl d =>
    match r.registerDefinition m.name d.path d.body (some ⟨m.name, m.stamp, element, 0⟩) with
    | .ok r' => (r', [])
    | .error e => (r, [e])
  | _ => (r, [])

/-- Registers the elements of a module. -/
def collectElements (m : Module) : Nat → List Element → Registry → Registry × List RegistryError
  | _, [], r => (r, [])
  | i, el :: rest, r =>
    let (r', es) := collectElement m i r el
    let (r'', es') := collectElements m (i + 1) rest r'
    (r'', es ++ es')

/-- Registers the modules in the given order. -/
def collect : List Module → Registry → Registry × List RegistryError
  | [], r => (r, [])
  | m :: ms, r =>
    let (r', es) := collectElements m 0 m.elements r
    let (r'', es') := collect ms r'
    (r'', es ++ es')

/-- Why a definition fits no slot. -/
def unboundError? (r : Registry) (d : Definition) : Option RegistryError :=
  match r.find? d.path.key with
  | none => some (.issue .unboundDefinition (.path d.path) d.module "architype is not declared")
  | some a => match a.ability? d.path.ability with
    | none => some (.issue .unboundDefinition (.path d.path) d.module "no such ability slot")
    | some _ => none

/-- The concrete slots of an architype that nothing defines. -/
def missingErrors (r : Registry) (a : Architype) : List RegistryError :=
  (a.abilities.filter fun slot =>
      (r.definition? slot.path).isNone && !slot.isAbstract && !slot.isBound).map fun slot =>
    .issue .missingDefinition (.path slot.path) slot.declModule ""

/-- All definitions without a slot, then all slots without a definition. -/
def bindErrors (r : Registry) : List RegistryError :=
  r.defs.filterMap r.unboundError? ++ r.archs.flatMap r.missingErrors

/-- Binds a slot to the definition of its path. -/
def bindSlot (r : Registry) (slot : Ability) : Ability :=
  match r.definition? slot.path with
  | some d => { slot with bound := some (d.body, d.module) }
  | none => slot

/-- Binds every slot, also where it is inherited. -/
def bindAll (r : Registry) : Registry :=
  { r with archs := r.archs.map fun a =>
    { a with
      abilities := a.abilities.map r.bindSlot
      linkedAbilities := a.linkedAbilities.map r.bindSlot } }

end Registry

/-- What resolving a set of modules led to. -/
structure Resolution where
  registry : Registry
  logs : List LogRecord
  /-- The import graph, or why resolution failed. -/
  outcome : Except Fault ImportGraph

/-- Resolves modules into a registry. -/
def resolve (r : Registry) (mods : List Module) : Resolution :=
  let started : LogRecord := ⟨.debug, "Resolving modules.", [("count", .count mods.length)]⟩
  match ImportGraph.ofModules mods with
  | .error f => ⟨r, [started], .error (.resolution [f])⟩
  | .ok (g, unknown) =>
    let order := g.order
    let cycles := g.cycles
    let logs := if cycles.isEmpty then [started] else
      [started, ⟨.warn, "Import cycle detected, continuing with name order.",
        [("modules", .names cycles)]⟩]
    let (collected, es₁) := Registry.collect order r
    let (linked, es₂) := collected.link
    let faults := unknown ++ (es₁ ++ es₂ ++ linked.bindErrors).map .registry
    if faults.isEmpty then
      let bound := (if linked.frozen then linked else linked.bindAll).freeze
      ⟨bound, logs ++ [⟨.info, "Modules resolved.", [("modules", .count order.length),
        ("architypes", .count bound.archs.length),
        ("definitions", .count bound.defs.length)]⟩], .ok g⟩
    else
      ⟨linked.reset, logs ++ [⟨.debug, "Resolution failed.", [("errors", .count faults.length)]⟩],
        .error (.resolution faults)⟩

end GraphWalk
