import GraphWalk.Registry.Basic

/-!
# Modules

A module is an ordered list of elements: imports, globals, architypes with their
ability slots, definitions of abilities given elsewhere, tests and seed graphs.
-/

namespace GraphWalk

/-- Where an element was written. -/
structure Pos where
  file : String
  line : Nat
deriving Repr, DecidableEq, Inhabited

/-- An ability slot; with a body it is defined on the spot. -/
structure AbilityDecl where
  pos : Pos
  name : String
  signature : Signature
  isAbstract : Bool
  body : Option Body
deriving Inhabited

structure ArchDecl where
  pos : Pos
  kind : Kind
  name : String
  bases : List String
  fields : List FieldDef
  abilities : List AbilityDecl
  directed : Bool
deriving Inhabited

/-- A definition of an ability outside its architype. -/
structure Impl where
  pos : Pos
  path : Path
  body : Option Body
deriving Inhabited

structure GlobalDecl where
  pos : Pos
  name : String
  value : Value
  isPrivate : Bool
deriving Inhabited

structure Import where
  pos : Pos
  module : String
deriving Inhabited

structure TestDecl where
  pos : Pos
  name : String
  description : String
deriving Inhabited

structure SeedNode where
  name : String
  arch : String
  fields : List (String × Value)
deriving Inhabited

/-- An edge between two nodes of the graph; `directed` overrides the default of
the architype. -/
structure SeedEdge where
  name : String
  arch : String
  source : String
  target : String
  fields : List (String × Value)
  directed : Option Bool
deriving Inhabited

structure SeedSpawn where
  walker : String
  at_ : String
  args : List (String × Value)
deriving Inhabited

/-- A graph to start from, and the walkers to spawn on it. -/
structure SeedGraph where
  pos : Pos
  name : String
  nodes : List SeedNode
  edges : List SeedEdge
  spawns : List SeedSpawn
deriving Inhabited

inductive Element where
  | imported (i : Import)
  | arch (d : ArchDecl)
  | impl (d : Impl)
  | global (g : GlobalDecl)
  | test (t : TestDecl)
  | graph (g : SeedGraph)
deriving Inhabited

/-- A module. Its stamp tells apart trees that were built separately, even from
one text. -/
structure Module where
  name : String
  path : String
  elements : List Element
  stamp : Nat
deriving Inhabited

namespace Module

def imports (m : Module) : List Import :=
  m.elements.filterMap fun
    | .imported i => some i
    | _ => none

def architypes (m : Module) : List ArchDecl :=
  m.elements.filterMap fun
    | .arch d => some d
    | _ => none

def impls (m : Module) : List Impl :=
  m.elements.filterMap fun
    | .impl d => some d
    | _ => none

def globals (m : Module) : List GlobalDecl :=
  m.elements.filterMap fun
    | .global g => some g
    | _ => none

def tests (m : Module) : List TestDecl :=
  m.elements.filterMap fun
    | .test t => some t
    | _ => none

def graphs (m : Module) : List SeedGraph :=
  m.elements.filterMap fun
    | .graph g => some g
    | _ => none

def graph? (m : Module) (name : String) : Option SeedGraph :=
  m.graphs.find? (·.name = name)

end Module

end GraphWalk
