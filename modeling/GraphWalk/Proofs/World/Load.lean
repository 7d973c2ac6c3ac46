import GraphWalk.Proofs.Module.Failure
import GraphWalk.Proofs.World.Declare

/-!
# Loading in vain

Loading has two phases. Modules that do not resolve leave the world as new
(`resolve_failed`). Modules that resolve freeze the registry, and then their globals are
declared: if that fails, the registry stays frozen and filled, and so do the globals.
This happens exactly to modules that resolve although one of them declares two globals
of one name (`Clashes`).

Main result: `unloaded_spec`. **A world in which nothing is loaded is as new, and loads
all modules like a new one, if and only if no modules that clash were tried.**
-/

namespace GraphWalk

open Registry (emptied)

namespace World

/-- As a new world: nothing is registered, declared or loaded. -/
structure Pristine (w : World) : Prop where
  registry : ∃ n, w.engine.registry = emptied n
  globals : w.globals = .empty
  loaded : w.loaded = none

/-- The same modules, with the same in the registry and the same globals. -/
structure Agrees (w w' : World) : Prop where
  archs : w.engine.registry.archs = w'.engine.registry.archs
  defs : w.engine.registry.defs = w'.engine.registry.defs
  frozen : w.engine.registry.frozen = w'.engine.registry.frozen
  globals : w.globals = w'.globals
  loaded : w.loaded = w'.loaded

/-- Modules that resolve, one of which declares two globals of one name. -/
def Clashes (mods : List Module) : Prop :=
  (∃ g, (resolve .empty mods).outcome = .ok g) ∧
    ∃ m ∈ mods, ¬(m.globals.map GlobalDecl.name).Nodup

/-- A world into which nothing was loaded yet, with the modules that were tried. -/
inductive Unloaded : List (List Module) → World → Prop where
  | new (haltOnError : Bool) (surroundings : Surroundings) :
    Unloaded [] (World.new haltOnError surroundings)
  | failed {tried : List (List Module)} {w : World} {mods : List Module} {f : Fault} :
    Unloaded tried w → (w.load mods).2 = some f → Unloaded (mods :: tried) (w.load mods).1
  /-- Whatever else happens leaves the registry and the modules alone, and changes
  globals by writing to them only. -/
  | other {tried : List (List Module)} {w w' : World} :
    Unloaded tried w → w'.engine.registry = w.engine.registry → w.globals.SameNames w'.globals →
      w'.loaded = w.loaded → Unloaded tried w'

variable {w w' : World} {mods : List Module} {g : ImportGraph} {f : Fault}

/-- Log records change neither the registry nor the globals. -/
theorem foldl_logged (logs : List LogRecord) : ∀ e : Engine,
    (logs.foldl Engine.logged e).registry = e.registry ∧
      (logs.foldl Engine.logged e).globals = e.globals := by
  induction logs with
  | nil => exact fun e => ⟨rfl, rfl⟩
  | cons l logs ih => exact fun e => ih (e.logged l)

/-- **A load that does not get past resolving** leaves the globals alone. -/
theorem load_unresolved (hl : w.loaded = none)
    (h : (resolve w.engine.registry mods).outcome = .error f) :
    (w.load mods).2 = some f ∧
      (w.load mods).1.engine.registry = (resolve w.engine.registry mods).registry ∧
      (w.load mods).1.globals = w.globals ∧ (w.load mods).1.loaded = none := by
  obtain ⟨hr, hg⟩ := foldl_logged (resolve w.engine.registry mods).logs
    { w.engine with registry := (resolve w.engine.registry mods).registry }
  unfold load
  simp only [hl, h, List.isEmpty_nil, Bool.not_true, Bool.false_eq_true, if_false]
  refine ⟨trivial, hr, ?_, trivial⟩
  unfold globals
  rw [hg]

/-- **A load that gets past resolving** succeeds if all globals can be declared. -/
theorem load_resolved (hl : w.loaded = none)
    (h : (resolve w.engine.registry mods).outcome = .ok g) :
    (w.load mods).2 = Fault.join? (declareModules g g.order w.globals).2 ∧
      (w.load mods).1.engine.registry = (resolve w.engine.registry mods).registry ∧
      (w.load mods).1.globals = (declareModules g g.order w.globals).1 ∧
      (w.load mods).1.loaded = if (declareModules g g.order w.globals).2 = [] then some g
        else none := by
  obtain ⟨hr, hg⟩ := foldl_logged (resolve w.engine.registry mods).logs
    { w.engine with registry := (resolve w.engine.registry mods).registry }
  generalize he : (resolve w.engine.registry mods).logs.foldl Engine.logged
    { w.engine with registry := (resolve w.engine.registry mods).registry } = e at hr hg
  have hglobals : ({ engine := e, loaded := none } : World).globals = w.globals := by
    unfold globals
    rw [hg]
  unfold load
  simp only [hl, h, List.isEmpty_nil, Bool.not_true, Bool.false_eq_true, if_false, he, hglobals]
  cases hf : (declareModules g g.order w.globals).2 with
  | nil => exact ⟨rfl, hr, rfl, rfl⟩
  | cons f fs => exact ⟨rfl, hr, rfl, rfl⟩

theorem new_pristine (haltOnError : Bool) (surroundings : Surroundings) :
    (World.new haltOnError surroundings).Pristine := ⟨⟨0, rfl⟩, rfl, rfl⟩

/-- Resolving into an emptied registry is resolving into a new one. -/
theorem Pristine.outcome (h : w.Pristine) (mods : List Module) :
    (resolve w.engine.registry mods).outcome = (resolve .empty mods).outcome := by
  obtain ⟨n, hn⟩ := h.registry
  rw [hn]
  exact (resolve_aged .empty n mods).1

theorem join?_eq_none {fs : List Fault} : Fault.join? fs = none ↔ fs = [] := by
  cases fs <;> simp [Fault.join?]

/-- The globals of modules that resolve can be declared in a new world, unless two of a
module have one name. -/
theorem Pristine.declare_eq_nil (h : w.Pristine)
    (hg : (resolve w.engine.registry mods).outcome = .ok g) :
    (declareModules g g.order w.globals).2 = [] ↔
      ∀ m ∈ mods, (m.globals.map GlobalDecl.name).Nodup := by
  obtain ⟨hnd, hperm, -⟩ := resolve_eq_ok hg
  rw [declareModules_eq_nil g.order w.globals ((hperm.map _).nodup_iff.2 hnd)
    (fun m _ name => by rw [h.globals]; rfl)]
  exact forall_congr' fun m => by rw [hperm.mem_iff]

/-- **A failed load leaves a new world as new** if and only if the modules do not
clash. -/
theorem Pristine.load_failed (h : w.Pristine) (hf : (w.load mods).2 = some f) :
    (w.load mods).1.Pristine ↔ ¬Clashes mods := by
  unfold Clashes
  rw [← h.outcome mods]
  cases ho : (resolve w.engine.registry mods).outcome with
  | error e =>
    obtain ⟨-, hr, hg, hl⟩ := load_unresolved h.loaded ho
    refine iff_of_true ⟨?_, hg.trans h.globals, hl⟩ ?_
    · rw [hr]
      obtain ⟨n, hn⟩ := h.registry
      rw [hn] at ho ⊢
      exact resolve_failed ho
    · rintro ⟨⟨g, hg⟩, -⟩
      cases hg
  | ok g =>
    obtain ⟨hfault, hr, -⟩ := load_resolved h.loaded ho
    refine iff_of_false (fun hp => ?_) (fun hn => hn ⟨⟨g, rfl⟩, ?_⟩)
    · -- the registry was frozen before the globals were declared
      obtain ⟨k, hk⟩ := hp.registry
      have := resolve_frozen ho
      rw [← hr, hk] at this
      cases this
    · by_contra hnone
      have hall : ∀ m ∈ mods, (m.globals.map GlobalDecl.name).Nodup := fun m hm =>
        by_contra fun hdup => hnone ⟨m, hm, hdup⟩
      rw [hfault, join?_eq_none.2 ((h.declare_eq_nil ho).2 hall)] at hf
      cases hf

/-- **Modules that clash** fail, and the registry stays frozen and globals declared. -/
theorem Pristine.load_clashes (h : w.Pristine) (hc : Clashes mods) :
    (w.load mods).2.isSome = true ∧ (w.load mods).1.engine.registry.frozen = true ∧
      (w.load mods).1.globals.vars ≠ [] := by
  obtain ⟨⟨g, ho⟩, m, hm, hdup⟩ := hc
  rw [← h.outcome mods] at ho
  obtain ⟨-, hperm, -⟩ := resolve_eq_ok ho
  obtain ⟨hfault, hr, hg, -⟩ := load_resolved h.loaded ho
  refine ⟨?_, by rw [hr]; exact resolve_frozen ho, ?_⟩
  · rw [hfault, Option.isSome_iff_ne_none, Ne, join?_eq_none, h.declare_eq_nil ho]
    exact fun hall => hdup (hall m hm)
  · rw [hg]
    refine declareModules_ne_nil (fun hn => hdup ?_) g.order w.globals (hperm.mem_iff.2 hm)
    rw [hn]
    exact List.nodup_nil

/-- No load takes a global away. -/
theorem load_vars (hl : w.loaded = none) (mods : List Module) :
    w.globals.vars <+: (w.load mods).1.globals.vars := by
  cases ho : (resolve w.engine.registry mods).outcome with
  | error e =>
    obtain ⟨-, -, hg, -⟩ := load_unresolved hl ho
    exact ⟨[], by rw [hg, List.append_nil]⟩
  | ok g =>
    obtain ⟨-, -, hg, -⟩ := load_resolved hl ho
    rw [hg]
    exact declareModules_vars g.order w.globals

/-- After a load that failed nothing is loaded. -/
theorem load_loaded (hl : w.loaded = none) (hf : (w.load mods).2 = some f) :
    (w.load mods).1.loaded = none := by
  cases ho : (resolve w.engine.registry mods).outcome with
  | error e =>
    obtain ⟨-, -, -, hl'⟩ := load_unresolved hl ho
    exact hl'
  | ok g =>
    obtain ⟨hfault, -, -, hl'⟩ := load_resolved hl ho
    rw [hl', if_neg]
    intro hn
    rw [hfault, join?_eq_none.2 hn] at hf
    cases hf

/-- What a load leaves in the registry of a new world is what it leaves in a new one. -/
theorem Pristine.load_registry (h : w.Pristine) (mods : List Module) :
    ∃ k, (w.load mods).1.engine.registry = (resolve .empty mods).registry.aged k := by
  have hr : (w.load mods).1.engine.registry = (resolve w.engine.registry mods).registry := by
    cases ho : (resolve w.engine.registry mods).outcome with
    | error e => exact (load_unresolved h.loaded ho).2.1
    | ok g => exact (load_resolved h.loaded ho).2.1
  obtain ⟨n, hn⟩ := h.registry
  rw [hr, hn]
  exact (resolve_aged .empty n mods).2

/-- **New worlds load alike**, also if they are as new after loads that failed. -/
theorem Pristine.load_agrees (h : w.Pristine) (h' : w'.Pristine) (mods : List Module) :
    (w.load mods).2 = (w'.load mods).2 ∧ (w.load mods).1.Agrees (w'.load mods).1 := by
  obtain ⟨k, hk⟩ := h.load_registry mods
  obtain ⟨k', hk'⟩ := h'.load_registry mods
  have hout := h.outcome mods
  have hout' := h'.outcome mods
  have hrest : (w.load mods).2 = (w'.load mods).2 ∧
      (w.load mods).1.globals = (w'.load mods).1.globals ∧
      (w.load mods).1.loaded = (w'.load mods).1.loaded := by
    cases ho : (resolve .empty mods).outcome with
    | error e =>
      obtain ⟨hf, -, hg, hl⟩ := load_unresolved h.loaded (hout.trans ho)
      obtain ⟨hf', -, hg', hl'⟩ := load_unresolved h'.loaded (hout'.trans ho)
      rw [hf, hf', hg, hg', hl, hl', h.globals, h'.globals]
      exact ⟨rfl, rfl, rfl⟩
    | ok g =>
      obtain ⟨hf, -, hg, hl⟩ := load_resolved h.loaded (hout.trans ho)
      obtain ⟨hf', -, hg', hl'⟩ := load_resolved h'.loaded (hout'.trans ho)
      rw [hf, hf', hg, hg', hl, hl', h.globals, h'.globals]
      exact ⟨rfl, rfl, rfl⟩
  exact ⟨hrest.1, by rw [hk, hk']; rfl, by rw [hk, hk']; rfl, by rw [hk, hk']; rfl, hrest.2.1,
    hrest.2.2⟩

/-! ## Worlds into which nothing was loaded -/

/-- **The invariant** of worlds into which nothing was loaded: they are as new until
modules that clash were tried, and have variables ever after. -/
theorem Unloaded.inv {tried : List (List Module)} (h : Unloaded tried w) :
    w.loaded = none ∧ ((∀ mods ∈ tried, ¬Clashes mods) → w.Pristine) ∧
      ((∃ mods ∈ tried, Clashes mods) → w.globals.vars ≠ []) := by
  induction h with
  | new haltOnError surroundings =>
    exact ⟨rfl, fun _ => new_pristine haltOnError surroundings, by rintro ⟨mods, hm, -⟩; cases hm⟩
  | @failed tried w mods f _ hf ih =>
    obtain ⟨hl, hnew, hvars⟩ := ih
    refine ⟨load_loaded hl hf, fun hall => ?_, ?_⟩
    · have hp := hnew fun mods' hm => hall mods' (List.mem_cons_of_mem mods hm)
      exact (hp.load_failed hf).2 (hall mods List.mem_cons_self)
    · rintro ⟨mods', hm, hc⟩
      by_cases hbefore : ∃ mods ∈ tried, Clashes mods
      · exact (load_vars hl mods).ne_nil (hvars hbefore)
      · have hp := hnew fun mods hm hc => hbefore ⟨mods, hm, hc⟩
        rcases List.mem_cons.1 hm with rfl | hm
        · exact (hp.load_clashes hc).2.2
        · exact absurd ⟨mods', hm, hc⟩ hbefore
  | other _ hr hg hl' ih =>
    obtain ⟨hl, hnew, hvars⟩ := ih
    refine ⟨hl'.trans hl, fun hall => ?_, fun hc => hg.ne_nil (hvars hc)⟩
    have hp := hnew hall
    rw [hp.globals] at hg
    exact ⟨by rw [hr]; exact hp.registry, hg.eq_empty, hl'.trans hl⟩

/-- **Failed loads**: a world into which nothing was loaded yet is as new, and loads
whatever comes next like a new one, exactly if no modules that clash were tried. -/
theorem unloaded_spec {tried : List (List Module)} {w : World} (h : Unloaded tried w) :
    (w.Pristine ↔ ∀ mods ∈ tried, ¬Clashes mods) ∧
      ((∀ haltOnError surroundings mods,
          (w.load mods).2 = ((World.new haltOnError surroundings).load mods).2 ∧
          (w.load mods).1.Agrees ((World.new haltOnError surroundings).load mods).1) ↔
        ∀ mods ∈ tried, ¬Clashes mods) := by
  obtain ⟨hl, hnew, hvars⟩ := h.inv
  refine ⟨⟨fun hp mods hm hc => ?_, hnew⟩, fun hall mods hm hc => ?_, fun hall => ?_⟩
  · refine hvars ⟨mods, hm, hc⟩ ?_
    rw [hp.globals]
    rfl
  · -- loading no modules at all shows the variables that are left
    obtain ⟨-, hagrees⟩ := hall false default []
    have ho : (resolve .empty []).outcome = .ok ⟨[]⟩ := by rfl
    obtain ⟨-, -, hnil, -⟩ := load_resolved (new_pristine false default).loaded ho
    refine (load_vars hl []).ne_nil (hvars ⟨mods, hm, hc⟩) ?_
    rw [hagrees.globals, hnil]
    rfl
  · intro haltOnError surroundings mods
    exact (hnew hall).load_agrees (new_pristine haltOnError surroundings) mods

/-- A module that imports one that is not there. -/
def lost : List Module := [⟨"m", "m", [.imported ⟨⟨"m", 1⟩, "gone"⟩], 0⟩]

/-- A module with a node and a global that it declares twice. -/
def doubled : List Module :=
  [⟨"m", "m", [.arch ⟨⟨"m", 1⟩, .node, "City", [], [], [], false⟩,
    .global ⟨⟨"m", 2⟩, "g", .null .dynamic, false⟩,
    .global ⟨⟨"m", 3⟩, "g", .null .dynamic, false⟩], 0⟩]

theorem unloaded_lost :
    Unloaded [lost] ((World.new false default).load lost).1 ∧
      ((World.new false default).load lost).1.Pristine := by
  obtain ⟨f, hf⟩ : ∃ f, ((World.new false default).load lost).2 = some f :=
    Option.isSome_iff_exists.1 rfl
  have h := Unloaded.failed (.new false default) hf
  refine ⟨h, (unloaded_spec h).1.2 fun mods hm => ?_⟩
  rw [List.mem_singleton.1 hm]
  rintro ⟨⟨g, hg⟩, -⟩
  cases hg

/-- The same module with the global once, and another node. -/
def mended : List Module :=
  [⟨"m", "m", [.arch ⟨⟨"m", 1⟩, .node, "City", [], [], [], false⟩,
    .arch ⟨⟨"m", 2⟩, .node, "Town", [], [], [], false⟩,
    .global ⟨⟨"m", 3⟩, "g", .null .dynamic, false⟩], 1⟩]

theorem doubled_not_pristine :
    let w := ((World.new false default).load doubled).1
    ((World.new false default).load doubled).2.isSome = true ∧ ¬w.Pristine ∧
      ((World.new false default).load mended).2.isNone = true ∧
      (w.load mended).2.isSome = true := by
  refine ⟨by decide +kernel, fun h => ?_, by decide +kernel, by decide +kernel⟩
  obtain ⟨n, hn⟩ := h.registry
  have hfrozen : ((World.new false default).load doubled).1.engine.registry.frozen = true := by
    decide +kernel
  rw [hn] at hfrozen
  cases hfrozen

end World

end GraphWalk
