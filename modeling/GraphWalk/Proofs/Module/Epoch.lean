import GraphWalk.Proofs.Module.Resolve

/-!
# Epochs do not matter

How often a registry was emptied is only a mark on it (`aged`): registering, linking
and resolving do the same whatever the mark says, and hand it on. So a registry that
was emptied is as good as a new one: `resolve_aged`.
-/

namespace GraphWalk

/-- A choice between outcomes that are mapped alike. -/
theorem ite_map {ε α β : Type} {c : Prop} [Decidable c] {f : α → β} {x y : Except ε α}
    {x' y' : Except ε β} (hx : x' = x.map f) (hy : y' = y.map f) :
    (if c then x' else y') = (if c then x else y).map f := by
  rw [hx, hy, apply_ite (Except.map f)]

namespace Registry

/-- The registry with another epoch. -/
def aged (r : Registry) (n : Nat) : Registry := { r with epoch := n }

variable (r : Registry) (n : Nat)

theorem registerArchitype_aged (module : String) (key : ArchKey) (spec : ArchSpec) :
    (r.aged n).registerArchitype module key spec =
      (r.registerArchitype module key spec).map fun p => (p.1.aged n, p.2) := by
  have hfind : (r.aged n).find? key = r.find? key := rfl
  have hrecord : (r.aged n).record module key = r.record module key := rfl
  unfold registerArchitype
  -- the same checks fail, with the same error
  refine ite_map rfl (ite_map rfl (ite_map rfl ?_))
  rw [hrecord]
  -- the record under the key is the same, and so are the fields that come to it
  cases newFields (r.record module key) spec.fields with
  | error p => rfl
  | ok added =>
    refine ite_map rfl (ite_map rfl ?_)
    refine congrArg Except.ok (Prod.ext ?_ rfl)
    rw [hfind]
    cases (r.find? key).isNone <;> rfl

theorem registerDeclaration_aged (module : String) (key : ArchKey) (spec : AbilitySpec) :
    (r.aged n).registerDeclaration module key spec =
      (r.registerDeclaration module key spec).map fun p => (p.1.aged n, p.2) := by
  unfold registerDeclaration
  rw [registerArchitype_aged]
  cases r.registerArchitype module key ⟨[], [], false⟩ with
  | error e => rfl
  | ok p =>
    simp only [bind, Except.bind, Except.map]
    have hfrozen : (p.1.aged n).frozen = p.1.frozen := rfl
    rw [hfrozen]
    split
    · split <;> rfl
    · split <;> rfl

/-- Definitions are told apart by their origins, which do not depend on the epoch. -/
theorem registerDefinition_aged (module : String) (path : Path) (body : Option Body)
    (origin : Option Origin) :
    (r.aged n).registerDefinition module path body origin =
      (r.registerDefinition module path body origin).map fun r => r.aged n := by
  have hdef : (r.aged n).definition? path = r.definition? path := rfl
  have hfrozen : (r.aged n).frozen = r.frozen := rfl
  unfold registerDefinition
  simp only [hdef, hfrozen]
  split
  · rfl
  · split
    · split <;> rfl
    · split <;> rfl

/-! ## Collecting -/

theorem collectAbilities_aged (m : Module) (element : Nat) (d : ArchDecl)
    (abs : List AbilityDecl) : ∀ (i : Nat) (r : Registry),
      collectAbilities m element d i abs (r.aged n) =
        ((collectAbilities m element d i abs r).1.aged n,
          (collectAbilities m element d i abs r).2) := by
  induction abs with
  | nil => exact fun i r => rfl
  | cons ab abs ih =>
    intro i r
    unfold collectAbilities
    rw [registerDeclaration_aged]
    cases r.registerDeclaration m.name ⟨d.kind, d.name⟩
        ⟨ab.name, ab.signature, ab.isAbstract⟩ with
    | error e => simp [Except.map, ih]
    | ok p =>
      cases ab.body with
      | none => simp [Except.map, ih]
      | some b =>
        simp only [Except.map, registerDefinition_aged]
        cases p.1.registerDefinition m.name ⟨d.kind, d.name, ab.name⟩ (some b)
            (some ⟨m.name, m.stamp, element, i + 1⟩) <;> simp [ih]

theorem collectElement_aged (m : Module) (element : Nat) (el : Element) :
    collectElement m element (r.aged n) el =
      ((collectElement m element r el).1.aged n, (collectElement m element r el).2) := by
  cases el with
  | arch d =>
    simp only [collectElement, registerArchitype_aged]
    cases r.registerArchitype m.name ⟨d.kind, d.name⟩ ⟨d.bases, d.fields, d.directed⟩ with
    | error e => rfl
    | ok p => exact collectAbilities_aged n m element d d.abilities 0 p.1
  | impl d =>
    simp only [collectElement, registerDefinition_aged]
    cases r.registerDefinition m.name d.path d.body
        (some ⟨m.name, m.stamp, element, 0⟩) <;> rfl
  | _ => rfl

theorem collectElements_aged (m : Module) (els : List Element) : ∀ (element : Nat) (r : Registry),
    collectElements m element els (r.aged n) =
      ((collectElements m element els r).1.aged n, (collectElements m element els r).2) := by
  induction els with
  | nil => exact fun element r => rfl
  | cons el els ih =>
    intro element r
    unfold collectElements
    simp only [collectElement_aged, ih]

/-- **Collecting** registers the same, and reports the same errors. -/
theorem collect_aged (mods : List Module) : ∀ r : Registry,
    collect mods (r.aged n) = ((collect mods r).1.aged n, (collect mods r).2) := by
  induction mods with
  | nil => exact fun r => rfl
  | cons m mods ih =>
    intro r
    unfold collect
    simp only [collectElements_aged, ih]

/-! ## Linking -/

/-- A linking run over a registry of another epoch. -/
def LinkRun.aged (run : LinkRun) (n : Nat) : LinkRun :=
  { run with registry := run.registry.aged n }

/-- If visits do not depend on the epoch, visits to bases do not either. -/
theorem visitBases_aged {fuel : Nat} {kind : Kind} {stack : List String}
    (hvisit : ∀ run key, linkVisit fuel (run.aged n) stack key =
      ((linkVisit fuel run stack key).1.aged n, (linkVisit fuel run stack key).2))
    (bases : List String) : ∀ (run : LinkRun) (fault : Option RegistryError),
      visitBases fuel kind stack bases (run.aged n, fault) =
        ((visitBases fuel kind stack bases (run, fault)).1.aged n,
          (visitBases fuel kind stack bases (run, fault)).2) := by
  induction bases with
  | nil => exact fun run fault => rfl
  | cons base bases ih =>
    intro run fault
    cases fault with
    | some e => exact ih run (some e)
    | none =>
      -- as long as nothing failed, the next base is visited
      have hstep : ∀ run : LinkRun, visitBases fuel kind stack (base :: bases) (run, none) =
          visitBases fuel kind stack bases (linkVisit fuel run stack ⟨kind, base⟩) := fun _ => rfl
      rw [hstep, hstep, hvisit]
      exact ih _ _

/-- A visit has one of four ends, and each is the same in the other epoch. -/
theorem linkVisit_aged (fuel : Nat) : ∀ (stack : List String) (run : LinkRun) (key : ArchKey),
    linkVisit fuel (run.aged n) stack key =
      ((linkVisit fuel run stack key).1.aged n, (linkVisit fuel run stack key).2) := by
  induction fuel with
  | zero => exact fun stack run key => rfl
  | succ fuel ih =>
    intro stack run key
    have hfind : (run.aged n).registry.find? key = run.registry.find? key := rfl
    cases ha : run.registry.find? key with
    | none => rw [linkVisit_unknown ha, linkVisit_unknown (hfind.trans ha)]
    | some a =>
      by_cases hl : run.linked.contains key = true
      · rw [linkVisit_linked ha hl, linkVisit_linked (hfind.trans ha) hl]
      · rw [Bool.not_eq_true] at hl
        by_cases hv : run.visiting.contains key = true
        · rw [linkVisit_cycle ha hl hv, linkVisit_cycle (hfind.trans ha) hl hv]
        · rw [Bool.not_eq_true] at hv
          rw [linkVisit_succ ha hl hv, linkVisit_succ (hfind.trans ha) hl hv]
          refine (congrArg (leave a key) (visitBases_aged n (ih (a.name :: stack)) a.bases
            { run with visiting := key :: run.visiting } none)).trans ?_
          generalize visitBases fuel a.kind (a.name :: stack) a.bases _ = acc
          obtain ⟨run', fault⟩ := acc
          cases fault <;> rfl

theorem linkFrom_aged (run : LinkRun) (key : ArchKey) :
    linkFrom (run.aged n) key = ((linkFrom run key).1.aged n, (linkFrom run key).2) := by
  have hlen : (run.aged n).registry.archs.length = run.registry.archs.length := rfl
  unfold linkFrom
  rw [hlen, linkVisit_aged]
  generalize linkVisit _ run [] key = acc
  obtain ⟨run', fault⟩ := acc
  cases fault <;> rfl

theorem linkAll_aged (keys : List ArchKey) : ∀ run : LinkRun,
    linkAll keys (run.aged n) = ((linkAll keys run).1.aged n, (linkAll keys run).2) := by
  induction keys with
  | nil => exact fun run => rfl
  | cons key keys ih =>
    intro run
    unfold linkAll
    simp only [linkFrom_aged, ih]

/-- **Linking** does the same. -/
theorem link_aged : (r.aged n).link = (r.link.1.aged n, r.link.2) := by
  have hfrozen : (r.aged n).frozen = r.frozen := rfl
  unfold link
  rw [hfrozen]
  split
  · rfl
  · have := linkAll_aged n (r.archs.map fun a => a.key) ⟨{ r with archs := r.archs.map fun a =>
      { a with bases := (r.resolveBases a).1 } }, [], []⟩
    simp only [List.map_map]
    exact Prod.ext (congrArg (fun p => p.1.registry) this)
      (congrArg (fun p => (r.archs.flatMap fun a => (r.resolveBases a).2) ++ p.2) this)

end Registry

theorem linked_aged (r : Registry) (n : Nat) (g : ImportGraph) :
    linked (r.aged n) g = (linked r g).aged n := by
  unfold linked
  rw [Registry.collect_aged, Registry.link_aged]

/-- What is wrong with modules does not depend on the epoch. -/
theorem faults_aged (r : Registry) (n : Nat) (g : ImportGraph) (unknown : List Fault) :
    faults (r.aged n) g unknown = faults r g unknown := by
  unfold faults
  rw [linked_aged, Registry.collect_aged, Registry.link_aged]
  rfl

/-- **Resolving does not depend on the epoch**: it leads to the same, with the same in
the registry. -/
theorem resolve_aged (r : Registry) (n : Nat) (mods : List Module) :
    (resolve (r.aged n) mods).outcome = (resolve r mods).outcome ∧
      ∃ k, (resolve (r.aged n) mods).registry = (resolve r mods).registry.aged k := by
  cases hg : ImportGraph.ofModules mods with
  | error f =>
    unfold resolve
    rw [hg]
    exact ⟨rfl, n, rfl⟩
  | ok p =>
    obtain ⟨hout, hreg⟩ := resolve_of_graph (r := r) hg
    obtain ⟨hout', hreg'⟩ := resolve_of_graph (r := r.aged n) hg
    rw [faults_aged] at hout' hreg'
    rw [linked_aged] at hreg'
    refine ⟨hout'.trans hout.symm, ?_⟩
    rw [hreg, hreg']
    have hfrozen : ((linked r p.1).aged n).frozen = (linked r p.1).frozen := rfl
    -- only emptying changes the epoch, and it adds one to whatever it was
    split
    · refine ⟨n, ?_⟩
      rw [hfrozen]
      split <;> rfl
    · unfold Registry.reset
      rw [hfrozen]
      split
      · exact ⟨n, rfl⟩
      · exact ⟨n + 1, rfl⟩

end GraphWalk
