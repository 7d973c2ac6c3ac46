import GraphWalk.Body

/-!
# Architypes

An architype is a kind, a name, typed fields and ability slots, and may extend
other architypes of its kind. Linking gives it its *effective* fields and
abilities: those of its bases in order, then its own, where a later member
replaces an earlier one of the same name in place (`upsert`).
-/

namespace GraphWalk

structure Param where
  name : String
  type : Ty
deriving Repr, DecidableEq, Inhabited

/-- What repeated declarations of an ability slot have to agree on. -/
structure Signature where
  params : List Param
  event : Event
  /-- The counterpart must be one of these architypes or a subtype; empty means
  any. -/
  filter : List String
deriving Repr, DecidableEq, Inhabited

def Signature.isTriggered (s : Signature) : Bool := s.event != .none

/-- An ability slot of an architype. -/
structure Ability where
  name : String
  signature : Signature
  isAbstract : Bool
  /-- The bound body with the module that defined it. -/
  bound : Option (Body × String)
  declModule : String
  /-- The place among the slots of its owner. -/
  order : Nat
  owner : ArchKey
deriving Inhabited

def Ability.path (a : Ability) : Path := ⟨a.owner.kind, a.owner.name, a.name⟩

def Ability.isBound (a : Ability) : Bool := a.bound.isSome

/-- The module whose definition was bound, or nothing. -/
def Ability.defModule (a : Ability) : String := (a.bound.map (·.2)).getD ""

structure Architype where
  kind : Kind
  name : String
  module : String
  /-- The declared bases, in order. -/
  baseNames : List String
  /-- The bases that linking found. -/
  bases : List String
  /-- The fields declared on this architype only. -/
  fields : List FieldDef
  /-- The slots declared on this architype only, in order. -/
  abilities : List Ability
  /-- Whether its edges are directed unless said otherwise. -/
  directed : Bool
  linkedFields : List FieldDef
  linkedAbilities : List Ability
  /-- The names of all architypes it inherits from. -/
  ancestry : List String
deriving Inhabited

/-- Replaces the member of the same name, or appends. -/
def upsert {α : Type} (name : α → String) (xs : List α) (x : α) : List α :=
  match xs with
  | [] => [x]
  | y :: ys => if name y = name x then x :: ys else y :: upsert name ys x

namespace Architype

def new (module : String) (key : ArchKey) : Architype :=
  { kind := key.kind, name := key.name, module, baseNames := [], bases := [], fields := [],
    abilities := [], directed := false, linkedFields := [], linkedAbilities := [],
    ancestry := [] }

def key (a : Architype) : ArchKey := ⟨a.kind, a.name⟩

def ability? (a : Architype) (name : String) : Option Ability :=
  a.abilities.find? (·.name = name)

def field? (a : Architype) (name : String) : Option FieldDef :=
  a.fields.find? (·.name = name)

/-- Whether `a` is the named architype or inherits from it. Before linking only
its own name counts. -/
def isA (a : Architype) (name : String) : Bool := a.name = name || a.ancestry.contains name

/-- Whether `a` satisfies a list of names. -/
def matchesAny (a : Architype) (filter : List String) : Bool :=
  filter.isEmpty || filter.any a.isA

/-- Inherited and own fields; the own ones alone before linking. -/
def effectiveFields (a : Architype) : List FieldDef :=
  if a.linkedFields.isEmpty then a.fields else a.linkedFields

/-- Inherited and own abilities in dispatch order; the own ones alone before
linking. -/
def effectiveAbilities (a : Architype) : List Ability :=
  if a.linkedAbilities.isEmpty then a.abilities else a.linkedAbilities

/-- Computes what `a` inherits from its bases, which are linked already. -/
def link (a : Architype) (bases : List Architype) : Architype :=
  { a with
    ancestry := bases.flatMap fun b => b.name :: b.ancestry
    linkedFields :=
      (bases.flatMap effectiveFields ++ a.fields).foldl (upsert FieldDef.name) []
    linkedAbilities :=
      (bases.flatMap effectiveAbilities ++ a.abilities).foldl (upsert Ability.name) [] }

end Architype

end GraphWalk
