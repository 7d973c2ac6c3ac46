import GraphWalk.Module.Basic

/-!
# The order of modules

Imported modules come before their importers; ties go by name. When only modules
on or behind import cycles are left, the one with the smallest name comes next.
A module that imports itself imports nothing.
-/

namespace GraphWalk

/-- A set of modules with distinct names. -/
structure ImportGraph where
  modules : List Module
deriving Inhabited

/-- The first name that occurs a second time. -/
def firstRepeated (seen : List String) : List String → Option String
  | [] => none
  | n :: ns => if seen.contains n then some n else firstRepeated (n :: seen) ns

namespace ImportGraph

def find? (g : ImportGraph) (name : String) : Option Module :=
  g.modules.find? (·.name = name)

/-- The modules of the set that `m` imports, itself left out, each once. -/
def depsOf (g : ImportGraph) (m : Module) : List String :=
  ((m.imports.map (·.module)).filter fun n => n != m.name && (g.find? n).isSome).eraseDups

/-- The imports of `m` that name no module of the set. -/
def unknownImports (g : ImportGraph) (m : Module) : List Fault :=
  (m.imports.filter fun i => (g.find? i.module).isNone).map fun i =>
    .unknownImport m.name i.module i.pos.file i.pos.line

/-- The graph of a list of modules with the unknown imports, or the name that two
of them share. -/
def ofModules (mods : List Module) : Except Fault (ImportGraph × List Fault) :=
  match firstRepeated [] (mods.map (·.name)) with
  | some name => .error (.text ("duplicate module name " ++ Text.quote name))
  | none =>
    let g : ImportGraph := ⟨mods⟩
    .ok (g, mods.flatMap g.unknownImports)

/-- The direct imports of a module in the order of their names. -/
def imports? (g : ImportGraph) (name : String) : Option (List String) :=
  (g.find? name).map fun m => (g.depsOf m).mergeSort (· ≤ ·)

/-- The module with the smallest name. -/
def smallest (m : Module) : List Module → Module
  | [] => m
  | m' :: ms => if m'.name < m.name then smallest m' ms else smallest m ms

/-- The module that comes next: the smallest one whose imports are all out, or
the smallest of all. -/
def next? (g : ImportGraph) (out : List String) (left : List Module) : Option Module :=
  match left.filter fun m => (g.depsOf m).all out.contains with
  | m :: ms => some (smallest m ms)
  | [] => match left with
    | m :: ms => some (smallest m ms)
    | [] => none

/-- Orders the modules that are left after those in `out`. -/
def orderFrom (g : ImportGraph) : Nat → List String → List Module → List Module
  | 0, _, _ => []
  | n + 1, out, left => match g.next? out left with
    | none => []
    | some m => m :: orderFrom g n (m.name :: out) (left.filter (·.name != m.name))

/-- All modules, imports before importers. -/
def order (g : ImportGraph) : List Module := g.orderFrom g.modules.length [] g.modules

/-- The modules that import `name`, by name. -/
def dependents (g : ImportGraph) (name : String) : List String :=
  ((g.modules.filter fun m => (g.depsOf m).contains name).map (·.name)).mergeSort (· ≤ ·)

/-- A search for cycles: the names done with and those found on a cycle. -/
structure CycleRun where
  finished : List String
  onCycle : List String

/-- Follows the importers of `name`. `stack` holds the way here, last name first;
meeting a name of it again marks everything since. -/
def cycleVisit (g : ImportGraph) : Nat → CycleRun → List String → String → CycleRun
  | 0, run, _, _ => run
  | fuel + 1, run, stack, name =>
    if run.finished.contains name then run
    else if stack.contains name then
      { run with onCycle := name :: stack.takeWhile (· != name) ++ run.onCycle }
    else
      let run' := (g.dependents name).foldl
        (fun run d => cycleVisit g fuel run (name :: stack) d) run
      { run' with finished := name :: run'.finished }

/-- The names of modules that were found on a cycle of imports. -/
def cycles (g : ImportGraph) : List String :=
  let names := (g.modules.map (·.name)).mergeSort (· ≤ ·)
  let run := names.foldl (fun run n => g.cycleVisit (names.length + 1) run [] n) ⟨[], []⟩
  run.onCycle.eraseDups.mergeSort (· ≤ ·)

end ImportGraph

end GraphWalk
