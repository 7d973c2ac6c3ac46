import GraphWalk.Registry.Basic

/-!
# Linking

Linking finds the bases of every architype and computes what each inherits, bases
first. It reports every base that is not declared and every cycle it runs into.
-/

namespace GraphWalk

namespace Registry

/-- The declared bases of `a` that exist, and an error for each that does not. -/
def resolveBases (r : Registry) (a : Architype) : List String × List RegistryError :=
  let known := fun (name : String) => (r.find? ⟨a.kind, name⟩).isSome
  (a.baseNames.filter known,
    (a.baseNames.filter fun n => !known n).map fun n =>
      .issue .unknownBase (.arch a.key) a.module
        (a.kind.text ++ " " ++ Text.quote n ++ " is not declared"))

/-- A linking run: the records so far, those being visited and those done. -/
structure LinkRun where
  registry : Registry
  visiting : List ArchKey
  linked : List ArchKey

/-- Links an architype after its bases. `stack` holds the names on the way here,
the last one first. -/
def linkVisit : Nat → LinkRun → List String → ArchKey → LinkRun × Option RegistryError
  | 0, run, _, _ => (run, none)
  | fuel + 1, run, stack, key =>
    match run.registry.find? key with
    | none => (run, none)
    | some a =>
      if run.linked.contains key then (run, none)
      else if run.visiting.contains key then
        (run, some (.issue .inheritanceCycle (.arch key) a.module
          (" -> ".intercalate (a.name :: stack).reverse)))
      else
        let start : LinkRun := { run with visiting := key :: run.visiting }
        let (run', fault) := a.bases.foldl
          (fun (acc : LinkRun × Option RegistryError) base => match acc.2 with
            | some _ => acc
            | none => linkVisit fuel acc.1 (a.name :: stack) ⟨a.kind, base⟩)
          (start, none)
        match fault with
        | some e => (run', some e)
        | none =>
          let bases := a.bases.filterMap fun n => run'.registry.find? ⟨a.kind, n⟩
          ({ registry := run'.registry.replace (a.link bases),
             visiting := run'.visiting.erase key,
             linked := key :: run'.linked }, none)

/-- Links one architype and everything it needs. A cycle is reported once: all
that was being visited counts as done. -/
def linkFrom (run : LinkRun) (key : ArchKey) : LinkRun × List RegistryError :=
  match linkVisit (run.registry.archs.length + 1) run [] key with
  | (run', none) => (run', [])
  | (run', some e) =>
    ({ run' with visiting := [], linked := run'.visiting ++ run'.linked }, [e])

/-- Links all architypes in order of registration. -/
def linkAll : List ArchKey → LinkRun → LinkRun × List RegistryError
  | [], run => (run, [])
  | key :: keys, run =>
    let (run', es) := linkFrom run key
    let (run'', es') := linkAll keys run'
    (run'', es ++ es')

/-- Links the registry; the list of errors is empty if all went well. Linking a
frozen registry does nothing. -/
def link (r : Registry) : Registry × List RegistryError :=
  if r.frozen then (r, [])
  else
    let unknown := r.archs.flatMap fun a => (r.resolveBases a).2
    let based := { r with archs := r.archs.map fun a =>
      { a with bases := (r.resolveBases a).1 } }
    let (run, cycles) := linkAll (based.archs.map (·.key)) ⟨based, [], []⟩
    (run.registry, unknown ++ cycles)

end Registry

end GraphWalk
