import GraphWalk.Proofs.Module.Again
import GraphWalk.Proofs.Registry.Frozen
import GraphWalk.Proofs.World.Load
import GraphWalk.World.Seed

/-!
# Loading once more

Once modules are loaded, the registry is frozen and all in it is bound
(`Reached.settled`), and every later load leaves the world as it is but for its log
(`load_again`). Whether it is refused is decided in two places: the world compares the
names of modules and how many elements they have, and the registry compares architypes
and definitions with those it has.

Main result: `reload_of_reached`. **A later load changes nothing, and is accepted exactly
if names and numbers agree and the registry covers the elements** (`Passes`). What
neither place compares can change unseen, for instance the value of a global
(`reload_other_global`).
-/

namespace GraphWalk

open Registry (emptied)

namespace World

variable {w w' : World} {mods : List Module} {g : ImportGraph}

/-- A world that loads, and whatever else happens, can lead to. -/
inductive Reached : World → Prop where
  | new (haltOnError : Bool) (surroundings : Surroundings) :
    Reached (World.new haltOnError surroundings)
  | load {w : World} (mods : List Module) : Reached w → Reached (w.load mods).1
  /-- Whatever else happens leaves the registry and the modules alone, and changes
  globals by writing to them only. -/
  | other {w w' : World} : Reached w → w'.engine.registry = w.engine.registry →
      w.globals.SameNames w'.globals → w'.loaded = w.loaded → Reached w'

/-! ## Worlds that take no other modules -/

/-- The registry is frozen with all bound, and the loaded modules have distinct names. -/
structure Settled (w : World) : Prop where
  frozen : w.engine.registry.frozen = true
  bound : w.engine.registry.bindErrors = []
  names : ∀ g, w.loaded = some g → (g.modules.map Module.name).Nodup

/-- **What a load comes to where modules are loaded**: it adds to the log only, and is
accepted if no module changed visibly and all of them resolve. -/
theorem load_again (hl : w.loaded = some g) (hf : w.engine.registry.frozen = true)
    (mods : List Module) :
    (∃ logs : List LogRecord,
      (w.load mods).1 = { w with engine := logs.foldl Engine.logged w.engine }) ∧
    ((w.load mods).2 = none ↔ (∀ m ∈ mods, changeOf g m = none) ∧
      ∃ g', (resolve w.engine.registry mods).outcome = .ok g') := by
  have hregistry := resolve_of_frozen hf mods
  have hchanges : mods.filterMap (changeOf g) = [] ↔ ∀ m ∈ mods, changeOf g m = none :=
    List.filterMap_eq_nil_iff
  by_cases hsame : mods.filterMap (changeOf g) = []
  · have hload : w.load mods = match (resolve w.engine.registry mods).outcome with
        | .error f => ({ w with engine :=
            (resolve w.engine.registry mods).logs.foldl Engine.logged w.engine }, some f)
        | .ok _ => (({ w with engine :=
            (resolve w.engine.registry mods).logs.foldl Engine.logged w.engine } : World).logged
              ⟨.debug, "Modules already loaded, registry unchanged.", []⟩, none) := by
      unfold load
      simp only [hl, hsame, hregistry, List.isEmpty_nil, Bool.not_true, Bool.false_eq_true,
        if_false]
      cases (resolve w.engine.registry mods).outcome <;> rfl
    rw [hload]
    cases ho : (resolve w.engine.registry mods).outcome with
    | error f =>
      refine ⟨⟨_, rfl⟩, iff_of_false (Option.some_ne_none f) ?_⟩
      rintro ⟨-, g', hg'⟩
      cases hg'
    | ok g' =>
      refine ⟨⟨(resolve w.engine.registry mods).logs ++
        [⟨.debug, "Modules already loaded, registry unchanged.", []⟩], ?_⟩,
        iff_of_true rfl ⟨hchanges.1 hsame, g', rfl⟩⟩
      rw [List.foldl_append]
      rfl
  · have hload : w.load mods = (w, Fault.join? (mods.filterMap (changeOf g))) := by
      unfold load
      simp only [hl]
      rw [if_pos]
      cases hc : mods.filterMap (changeOf g) with
      | nil => exact absurd hc hsame
      | cons c cs => rfl
    rw [hload]
    refine ⟨⟨[], rfl⟩, ?_⟩
    simp only [join?_eq_none]
    exact iff_of_false hsame fun h => hsame (hchanges.2 h.1)

/-- Modules that resolve into an emptied registry leave it frozen, with all bound. -/
theorem bound_of_resolve {n : Nat} (h : (resolve (emptied n) mods).outcome = .ok g) :
    (resolve (emptied n) mods).registry.bindErrors = [] := by
  obtain ⟨-, -, -, hbind, hr⟩ := resolve_eq_ok h
  rw [linked_emptied_frozen, if_neg Bool.false_ne_true] at hr
  rw [hr]
  exact Registry.bindErrors_bindAll (linked_emptied_tidy n g) hbind

theorem names_of_resolve {r : Registry} (h : (resolve r mods).outcome = .ok g) :
    (g.modules.map Module.name).Nodup := by
  obtain ⟨hmods, -, hnd⟩ := ImportGraph.ofModules_eq_ok (ofModules_of_resolve h)
  rw [hmods]
  exact hnd

/-- **One load** in a world where nothing is registered. -/
theorem load_emptied {n : Nat} (hr : w.engine.registry = emptied n) (hl : w.loaded = none)
    (mods : List Module) :
    (∃ k, (w.load mods).1.engine.registry = emptied k) ∧ (w.load mods).1.loaded = none ∨
      (w.load mods).1.Settled := by
  cases ho : (resolve w.engine.registry mods).outcome with
  | error f =>
    obtain ⟨-, hr', -, hl'⟩ := load_unresolved hl ho
    rw [hr] at ho hr'
    obtain ⟨k, hk⟩ := resolve_failed ho
    exact Or.inl ⟨⟨k, hr'.trans hk⟩, hl'⟩
  | ok g =>
    obtain ⟨-, hr', -, hl'⟩ := load_resolved hl ho
    refine Or.inr ⟨?_, ?_, fun g' hg' => ?_⟩
    · rw [hr']
      exact resolve_frozen ho
    · rw [hr']
      rw [hr] at ho ⊢
      exact bound_of_resolve ho
    · rw [hl'] at hg'
      split at hg'
      · cases hg'
        exact names_of_resolve ho
      · cases hg'

/-- **One load** in a world that takes no other modules. -/
theorem Settled.load (h : w.Settled) (mods : List Module) : (w.load mods).1.Settled := by
  cases hl : w.loaded with
  | none =>
    have hregistry := resolve_of_frozen h.frozen mods
    cases ho : (resolve w.engine.registry mods).outcome with
    | error f =>
      obtain ⟨-, hr', -, hl'⟩ := load_unresolved hl ho
      rw [hregistry] at hr'
      exact ⟨hr' ▸ h.frozen, hr' ▸ h.bound, fun g hg => by rw [hl'] at hg; cases hg⟩
    | ok g =>
      obtain ⟨-, hr', -, hl'⟩ := load_resolved hl ho
      rw [hregistry] at hr'
      refine ⟨hr' ▸ h.frozen, hr' ▸ h.bound, fun g' hg' => ?_⟩
      rw [hl'] at hg'
      split at hg'
      · cases hg'
        exact names_of_resolve ho
      · cases hg'
  | some g =>
    obtain ⟨⟨logs, hw⟩, -⟩ := load_again hl h.frozen mods
    obtain ⟨hr', -⟩ := foldl_logged logs w.engine
    rw [hw]
    exact ⟨hr' ▸ h.frozen, hr' ▸ h.bound, h.names⟩

/-- **Every world**: nothing is registered and nothing loaded, or it takes no other
modules. -/
theorem Reached.emptied_or_settled (h : Reached w) :
    (∃ n, w.engine.registry = emptied n) ∧ w.loaded = none ∨ w.Settled := by
  induction h with
  | new haltOnError surroundings => exact Or.inl ⟨⟨0, rfl⟩, rfl⟩
  | load mods _ ih =>
    rcases ih with ⟨⟨n, hr⟩, hl⟩ | hs
    · exact load_emptied hr hl mods
    · exact Or.inr (hs.load mods)
  | other _ hr _ hl ih =>
    rcases ih with ⟨hn, hnone⟩ | hs
    · exact Or.inl ⟨by rw [hr]; exact hn, hl.trans hnone⟩
    · exact Or.inr ⟨by rw [hr]; exact hs.frozen, by rw [hr]; exact hs.bound,
        fun g hg => hs.names g (hl.symm.trans hg)⟩

theorem Reached.settled (h : Reached w) (hl : w.loaded.isSome = true) : w.Settled := by
  rcases h.emptied_or_settled with ⟨-, hnone⟩ | hs
  · rw [hnone] at hl
    cases hl
  · exact hs

/-! ## What is accepted -/

/-- What a later load needs: names and numbers of elements as loaded, distinct names, no
imports but of modules of the list, and architypes and definitions that the registry
has. -/
structure Passes (w : World) (mods : List Module) : Prop where
  counts : ∀ m ∈ mods, ∃ old ∈ w.modules, old.name = m.name ∧
    old.elements.length = m.elements.length
  names : (mods.map Module.name).Nodup
  imports : ∀ m ∈ mods, ∀ i ∈ m.imports, i.module ∈ mods.map Module.name
  covered : ∀ m ∈ mods, ∀ i el, m.elements[i]? = some el → w.engine.registry.Covers m i el

theorem isSome_find?_module {ms : List Module} {name : String} :
    ((⟨ms⟩ : ImportGraph).find? name).isSome = true ↔ name ∈ ms.map Module.name := by
  unfold ImportGraph.find?
  rw [List.find?_isSome, List.mem_map]
  simp only [decide_eq_true_eq]

/-- Every import names one of the modules. -/
theorem unknownImports_eq_nil {ms : List Module} :
    ms.flatMap (⟨ms⟩ : ImportGraph).unknownImports = [] ↔
      ∀ m ∈ ms, ∀ i ∈ m.imports, i.module ∈ ms.map Module.name := by
  rw [List.flatMap_eq_nil_iff]
  refine forall_congr' fun m => forall_congr' fun _ => ?_
  unfold ImportGraph.unknownImports
  rw [List.map_eq_nil_iff, List.filter_eq_nil_iff]
  refine forall_congr' fun i => forall_congr' fun _ => ?_
  rw [Bool.not_eq_true, Option.isNone_eq_false_iff, isSome_find?_module]

/-- The faults that a frozen registry finds, where all in it is bound. -/
theorem faults_frozen {r : Registry} (hf : r.frozen = true) (hbound : r.bindErrors = [])
    {unknown : List Fault} (hg : ImportGraph.ofModules mods = .ok (g, unknown)) :
    faults r g unknown = [] ↔
      (∀ m ∈ mods, ∀ i ∈ m.imports, i.module ∈ mods.map Module.name) ∧
      ∀ m ∈ mods, ∀ i el, m.elements[i]? = some el → r.Covers m i el := by
  obtain ⟨hmods, hunknown, hnd⟩ := ImportGraph.ofModules_eq_ok hg
  have hperm : g.order.Perm mods := by
    rw [← hmods] at hnd ⊢
    exact ImportGraph.order_perm hnd
  obtain ⟨es, hes, hcovers⟩ := Registry.collect_covers hf g.order
  have hfaults : faults r g unknown = unknown ++ es.map .registry := by
    unfold faults
    rw [linked_frozen hf, hes, Registry.link_frozen hf, hbound]
    simp
  rw [hfaults, List.append_eq_nil_iff, List.map_eq_nil_iff, hcovers, hunknown]
  refine and_congr ?_ (forall_congr' fun m => by rw [hperm.mem_iff])
  obtain ⟨ms⟩ := g
  obtain rfl : ms = mods := hmods
  exact unknownImports_eq_nil

/-- **Resolving into a frozen registry** succeeds exactly for modules that it covers. -/
theorem resolve_frozen_iff {r : Registry} (hf : r.frozen = true) (hbound : r.bindErrors = []) :
    (∃ g, (resolve r mods).outcome = .ok g) ↔ (mods.map Module.name).Nodup ∧
      (∀ m ∈ mods, ∀ i ∈ m.imports, i.module ∈ mods.map Module.name) ∧
      ∀ m ∈ mods, ∀ i el, m.elements[i]? = some el → r.Covers m i el := by
  cases hg : ImportGraph.ofModules mods with
  | error f =>
    refine iff_of_false ?_ ?_
    · rintro ⟨g, h⟩
      rw [ofModules_of_resolve h] at hg
      cases hg
    · rintro ⟨hnd, -⟩
      unfold ImportGraph.ofModules at hg
      rw [firstRepeated_eq_none.2 ⟨hnd, fun _ _ => List.not_mem_nil⟩] at hg
      cases hg
  | ok p =>
    obtain ⟨g, unknown⟩ := p
    obtain ⟨-, -, hnd⟩ := ImportGraph.ofModules_eq_ok hg
    obtain ⟨hout, -⟩ := resolve_of_graph (r := r) hg
    rw [and_iff_right hnd, ← faults_frozen hf hbound hg, hout]
    constructor
    · rintro ⟨g', h⟩
      split at h
      · rename_i hnil
        exact List.isEmpty_iff.1 hnil
      · cases h
    · intro hnil
      exact ⟨g, if_pos (List.isEmpty_iff.2 hnil)⟩

/-- A module did not change visibly if one of its name and length was loaded. -/
theorem changeOf_eq_none (hnd : (g.modules.map Module.name).Nodup) {m : Module} :
    changeOf g m = none ↔ ∃ old ∈ g.order, old.name = m.name ∧
      old.elements.length = m.elements.length := by
  have hperm := ImportGraph.order_perm hnd
  unfold changeOf
  constructor
  · intro h
    split at h
    · cases h
    · rename_i old hold
      split at h
      · rename_i hlen
        have hname : old.name = m.name := by simpa using List.find?_some hold
        exact ⟨old, hperm.mem_iff.2 (List.mem_of_find?_eq_some hold), hname, hlen⟩
      · cases h
  · rintro ⟨old, hold, hname, hlen⟩
    have hfind : g.find? m.name = some old :=
      (find?_eq_some_of_nodup hnd).2 ⟨hperm.mem_iff.1 hold, hname⟩
    rw [hfind]
    exact if_pos hlen

/-- **Loading once more.** In every world where modules are loaded, a later load of any
modules leaves registry, globals, modules and seed graphs as they are, and is accepted
exactly if the modules pass. -/
theorem reload_of_reached (h : Reached w) (hl : w.loaded.isSome = true) (mods : List Module) :
    ((w.load mods).2 = none ↔ Passes w mods) ∧
      (w.load mods).1.engine.registry = w.engine.registry ∧
      (w.load mods).1.globals = w.globals ∧ (w.load mods).1.loaded = w.loaded ∧
      (w.load mods).1.modules = w.modules ∧
      ∀ name, (w.load mods).1.findGraph name = w.findGraph name := by
  have hs := h.settled hl
  obtain ⟨g, hg⟩ := Option.isSome_iff_exists.1 hl
  obtain ⟨⟨logs, hw⟩, haccept⟩ := load_again hg hs.frozen mods
  obtain ⟨hregistry, hglobals⟩ := foldl_logged logs w.engine
  have horder : w.modules = g.order := by
    unfold modules
    rw [hg]
    rfl
  refine ⟨?_, ?_⟩
  · rw [haccept, resolve_frozen_iff hs.frozen hs.bound]
    simp only [changeOf_eq_none (hs.names g hg), ← horder]
    exact ⟨fun ⟨hcounts, hnd, himports, hcovered⟩ => ⟨hcounts, hnd, himports, hcovered⟩,
      fun hp => ⟨hp.counts, hp.names, hp.imports, hp.covered⟩⟩
  · rw [hw]
    refine ⟨hregistry, ?_, rfl, rfl, fun name => rfl⟩
    unfold globals
    rw [hglobals]

/-- After a first load the modules are those that were loaded. -/
theorem load_modules (hl : w.loaded = none) (h : (w.load mods).2 = none) :
    (w.load mods).1.modules.Perm mods := by
  cases ho : (resolve w.engine.registry mods).outcome with
  | error f =>
    obtain ⟨hf, -⟩ := load_unresolved hl ho
    rw [hf] at h
    cases h
  | ok g =>
    obtain ⟨hf, -, -, hl'⟩ := load_resolved hl ho
    obtain ⟨-, hperm, -⟩ := resolve_eq_ok ho
    rw [hf, join?_eq_none] at h
    unfold modules
    rw [hl', if_pos h]
    exact hperm

/-- A module with one global. -/
def flagged (b : Bool) : List Module :=
  [⟨"m", "m", [.global ⟨⟨"m", 1⟩, "g", .bool b, false⟩], 0⟩]

theorem reload_flagged :
    let w := ((World.new false default).load (flagged true)).1
    Reached w ∧ w.loaded.isSome = true ∧ Passes w (flagged false) ∧
      (w.load (flagged false)).1.globals = w.globals := by
  have hreached := Reached.load (flagged true) (.new false default)
  have hl : ((World.new false default).load (flagged true)).1.loaded.isSome = true := by
    decide +kernel
  obtain ⟨haccept, -, hglobals, -⟩ := reload_of_reached hreached hl (flagged false)
  have hnone : (((World.new false default).load (flagged true)).1.load (flagged false)).2 = none :=
    Option.isNone_iff_eq_none.1 (by decide +kernel)
  exact ⟨hreached, hl, haccept.1 hnone, hglobals⟩

/-- **The value of a global can change unseen.** -/
theorem reload_other_global :
    ¬∀ (w : World) (mods : List Module), Reached w → w.loaded.isSome = true →
      (w.load mods).2 = none →
        ∀ m ∈ mods, ∃ old ∈ w.modules, old.name = m.name ∧ old.elements = m.elements := by
  intro hsame
  have hmodules : ((World.new false default).load (flagged true)).1.modules.Perm (flagged true) :=
    load_modules rfl (Option.isNone_iff_eq_none.1 (by decide +kernel))
  obtain ⟨old, hold, -, heq⟩ := hsame _ (flagged false)
    (.load (flagged true) (.new false default)) (by decide +kernel)
    (Option.isNone_iff_eq_none.1 (by decide +kernel)) _ List.mem_cons_self
  rw [List.mem_singleton.1 (hmodules.mem_iff.1 hold)] at heq
  cases heq

end World

end GraphWalk
