import GraphWalk.Module.Resolve
import GraphWalk.Walker.Step

/-!
# Worlds

A world is an engine into which a set of modules is loaded, once. Loading the
same modules again changes nothing; loading others is refused.
-/

namespace GraphWalk

structure World where
  engine : Engine
  /-- The modules that were loaded. -/
  loaded : Option ImportGraph
deriving Inhabited

namespace World

def new (haltOnError : Bool) (surroundings : Surroundings) : World :=
  { engine := { store := .empty, registry := .empty, globals := some .empty, haltOnError,
                table := [], walkers := [], named := 0, signals := #[], surroundings }
    loaded := none }

def globals (w : World) : GlobalTable := w.engine.globals.getD .empty

def withGlobals (w : World) (t : GlobalTable) : World :=
  { w with engine := { w.engine with globals := some t } }

def withStore (w : World) (s : Store) : World := { w with engine := { w.engine with store := s } }

def logged (w : World) (r : LogRecord) : World := { w with engine := w.engine.logged r }

/-- The loaded modules, imports first. -/
def modules (w : World) : List Module := (w.loaded.map (·.order)).getD []

/-- Why a module is not the one that was loaded under its name. -/
def changeOf (loaded : ImportGraph) (m : Module) : Option Fault :=
  match loaded.find? m.name with
  | none => some (.frozenModules
      ("module " ++ Text.quote m.name ++ " was not part of the loaded set"))
  | some old =>
    if old.elements.length = m.elements.length then none
    else some (.frozenModules
      ("module " ++ Text.quote m.name ++ " changed since it was loaded ("
        ++ toString old.elements.length ++ " elements, now " ++ toString m.elements.length ++ ")"))

/-- Declares the globals of a module. -/
def declareGlobals (module : String) : List GlobalDecl → GlobalTable → GlobalTable × List Fault
  | [], t => (t, [])
  | g :: rest, t => match t.declare module g.name g.value g.isPrivate with
    | .ok t' => declareGlobals module rest t'
    | .error e =>
      let (t', fs) := declareGlobals module rest t
      (t', .within (g.pos.file ++ ":" ++ toString g.pos.line) (.global e) :: fs)

/-- Declares the globals and imports of modules in order. -/
def declareModules (graph : ImportGraph) : List Module → GlobalTable → GlobalTable × List Fault
  | [], t => (t, [])
  | m :: ms, t =>
    let (t', fs) := declareGlobals m.name m.globals t
    let (t'', fs') := declareModules graph ms
      (t'.setImports m.name ((graph.imports? m.name).getD []))
    (t'', fs ++ fs')

/-- Loads modules. -/
def load (w : World) (mods : List Module) : World × Option Fault :=
  let changes := match w.loaded with
    | some g => mods.filterMap (changeOf g)
    | none => []
  if !changes.isEmpty then (w, Fault.join? changes)
  else
    let res := resolve w.engine.registry mods
    let w := { w with engine := res.logs.foldl Engine.logged { w.engine with
      registry := res.registry } }
    match res.outcome, w.loaded with
    | .error f, _ => (w, some f)
    | .ok _, some _ =>
      (w.logged ⟨.debug, "Modules already loaded, registry unchanged.", []⟩, none)
    | .ok g, none =>
      let order := g.order
      let (t, faults) := declareModules g order w.globals
      let w := w.withGlobals t
      match Fault.join? faults with
      | some f => (w, some f)
      | none =>
        ({ w with loaded := some g }.logged
          ⟨.info, "Runtime loaded.", [("modules", .count order.length)]⟩, none)

/-- Spawns a walker of the named architype. -/
def spawn (w : World) (arch : String) (start : Handle) (args : List (String × Value)) :
    Except Fault (World × Walker) :=
  if w.loaded.isNone then .error .notLoaded
  else match w.engine.registry.lookup ⟨.walker, arch⟩ with
    | .error e => .error (.registry e)
    | .ok a => match w.engine.spawn a start args with
      | .error f => .error f
      | .ok (engine, walker) => .ok ({ w with engine }, walker)

end World

end GraphWalk
