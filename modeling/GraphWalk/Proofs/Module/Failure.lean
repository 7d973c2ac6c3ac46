import GraphWalk.Proofs.Module.Epoch

/-!
# What is left of modules that do not resolve

An emptied registry that could not take a set of modules is emptied again
(`resolve_failed`), and takes whatever comes next like a new one, since its epoch does not
matter (`resolve_aged`). A frozen registry accepts only what changes nothing, so resolving
leaves it as it is, whether it fails or not: `resolve_of_frozen`.

Main result: `untouched_of_failure`. **A resolution that fails leaves no trace**, in new
registries and in frozen ones.
-/

namespace GraphWalk

namespace Registry

/-- The same records and definitions, and both frozen or neither. -/
structure Alike (r r' : Registry) : Prop where
  archs : r.archs = r'.archs
  defs : r.defs = r'.defs
  frozen : r.frozen = r'.frozen

theorem aged_alike (r : Registry) (n : Nat) : (r.aged n).Alike r := ⟨rfl, rfl, rfl⟩

/-! ## Frozen registries -/

variable {r r' : Registry} {module : String}

/-- **A frozen registry** accepts an architype only if it has all that is declared. -/
theorem registerArchitype_frozen {key : ArchKey} {spec : ArchSpec} {a : Architype}
    (hf : r.frozen = true) (h : r.registerArchitype module key spec = .ok (r', a)) : r' = r := by
  unfold registerArchitype at h
  obtain ⟨-, h⟩ := of_ite_error h
  obtain ⟨-, h⟩ := of_ite_error h
  obtain ⟨-, h⟩ := of_ite_error h
  cases hnew : newFields (r.record module key) spec.fields with
  | error p => rw [hnew] at h; cases h
  | ok added =>
    rw [hnew] at h
    simp only at h
    split at h
    · cases h
      rfl
    · cases h

theorem registerDeclaration_frozen {key : ArchKey} {spec : AbilitySpec} {slot : Ability}
    (hf : r.frozen = true) (h : r.registerDeclaration module key spec = .ok (r', slot)) :
    r' = r := by
  unfold registerDeclaration at h
  cases ha : r.registerArchitype module key ⟨[], [], false⟩ with
  | error e => rw [ha] at h; cases h
  | ok p =>
    obtain ⟨r₁, a⟩ := p
    have hr := registerArchitype_frozen hf ha
    subst hr
    rw [ha] at h
    simp only [bind, Except.bind] at h
    split at h
    · split at h
      · cases h
        rfl
      · cases h
    · rw [if_pos hf] at h
      cases h

theorem registerDefinition_frozen {path : Path} {body : Option Body} {origin : Option Origin}
    (hf : r.frozen = true) (h : r.registerDefinition module path body origin = .ok r') :
    r' = r := by
  unfold registerDefinition at h
  split at h
  · cases h
  · split at h
    · split at h
      · cases h
        rfl
      · cases h
    · rw [if_pos hf] at h
      cases h

/-- That a registry is this frozen one, no registration loses. -/
theorem kept_frozen (hf : r.frozen = true) : Kept (· = r) where
  architype := by
    rintro _ r' module key spec a rfl h
    exact registerArchitype_frozen hf h
  declaration := by
    rintro _ r' module key spec slot rfl h
    exact registerDeclaration_frozen hf h
  definition := by
    rintro _ r' module path body origin rfl h
    exact registerDefinition_frozen hf h

theorem collect_frozen (hf : r.frozen = true) (mods : List Module) : (collect mods r).1 = r :=
  (kept_frozen hf).collect mods rfl

end Registry

open Registry (emptied)

variable {r : Registry} {mods : List Module} {g : ImportGraph} {f : Fault}

theorem linked_frozen (hf : r.frozen = true) (g : ImportGraph) : linked r g = r := by
  unfold linked
  rw [Registry.collect_frozen hf, Registry.link_frozen hf]

/-- **Resolving leaves a frozen registry** as it is. -/
theorem resolve_of_frozen (hf : r.frozen = true) (mods : List Module) :
    (resolve r mods).registry = r := by
  cases hg : ImportGraph.ofModules mods with
  | error f =>
    unfold resolve
    rw [hg]
  | ok p =>
    obtain ⟨-, hreg⟩ := resolve_of_graph (r := r) hg
    rw [hreg, linked_frozen hf]
    split
    · unfold Registry.freeze
      rw [← hf]
    · unfold Registry.reset
      rw [if_pos hf]

/-! ## Failing and succeeding -/

/-- Linking what modules have filled keeps records, slots and definitions. -/
theorem linking_emptied (n : Nat) (g : ImportGraph) :
    (Registry.collect g.order (emptied n)).1.Linking (linked (emptied n) g) := by
  have hclean := Registry.collect_clean g.order (Registry.emptied_clean n)
  exact Registry.link_spec hclean.tidy.keys fun a ha => (hclean.bare a ha).unlinked

/-- What modules have filled is in order when it is linked. -/
theorem linked_emptied_tidy (n : Nat) (g : ImportGraph) : (linked (emptied n) g).Tidy := by
  have hclean := Registry.collect_clean g.order (Registry.emptied_clean n)
  have hlink := linking_emptied n g
  exact hclean.tidy.of_table hlink.table hlink.defs

/-- Nothing freezes the registry before binding. -/
theorem linked_emptied_frozen (n : Nat) (g : ImportGraph) :
    (linked (emptied n) g).frozen = false := by
  have hclean := Registry.collect_clean g.order (Registry.emptied_clean n)
  exact (linking_emptied n g).frozen.trans hclean.frozen

/-- **Modules that do not resolve leave the registry empty.** -/
theorem resolve_failed {n : Nat} (h : (resolve (emptied n) mods).outcome = .error f) :
    ∃ k, (resolve (emptied n) mods).registry = emptied k := by
  cases hg : ImportGraph.ofModules mods with
  | error f =>
    unfold resolve
    rw [hg]
    exact ⟨n, rfl⟩
  | ok p =>
    obtain ⟨hout, hreg⟩ := resolve_of_graph (r := emptied n) hg
    rw [hout] at h
    split at h
    · cases h
    · rename_i hf
      rw [hreg, if_neg hf]
      unfold Registry.reset
      rw [linked_emptied_frozen]
      exact ⟨(linked (emptied n) p.1).epoch + 1, rfl⟩

theorem resolve_frozen (h : (resolve r mods).outcome = .ok g) :
    (resolve r mods).registry.frozen = true := by
  obtain ⟨-, -, -, -, hr⟩ := resolve_eq_ok h
  rw [hr]
  rfl

/-- **A failed resolution leaves no trace**: a new registry is empty and not frozen
afterwards, and resolves whatever comes next like a new one, with the same faults if it
fails again; a frozen registry is the same afterwards. -/
theorem untouched_of_failure :
    (∀ (n : Nat) (mods : List Module) (f : Fault),
      (resolve (emptied n) mods).outcome = .error f →
        (resolve (emptied n) mods).registry.Alike .empty ∧
        ∀ mods', (resolve (resolve (emptied n) mods).registry mods').outcome =
            (resolve .empty mods').outcome ∧
          (resolve (resolve (emptied n) mods).registry mods').registry.Alike
            (resolve .empty mods').registry) ∧
    ∀ (r : Registry) (mods : List Module) (f : Fault), r.frozen = true →
      (resolve r mods).outcome = .error f → (resolve r mods).registry = r := by
  refine ⟨fun n mods f h => ?_, fun r mods f hf _ => resolve_of_frozen hf mods⟩
  obtain ⟨k, hk⟩ := resolve_failed h
  rw [hk]
  refine ⟨Registry.aged_alike .empty k, fun mods' => ?_⟩
  obtain ⟨hout, k', hreg⟩ := resolve_aged .empty k mods'
  refine ⟨hout, ?_⟩
  have halike := Registry.aged_alike (resolve .empty mods').registry k'
  rwa [← hreg] at halike

/-- The library without the module that declares most of it. -/
def torso : List Module := Registry.library.take 1

theorem untouched_torso :
    (∃ f, (resolve (emptied 0) torso).outcome = .error f) ∧
      (resolve (emptied 0) torso).registry.Alike .empty ∧
      (resolve (resolve (emptied 0) torso).registry Registry.library).outcome =
        (resolve .empty Registry.library).outcome ∧
      (resolve (resolve .empty Registry.library).registry torso).registry =
        (resolve .empty Registry.library).registry := by
  obtain ⟨f, hf⟩ : ∃ f, (resolve (emptied 0) torso).outcome = .error f := ⟨_, rfl⟩
  obtain ⟨f', hf'⟩ : ∃ f, (resolve (resolve .empty Registry.library).registry torso).outcome =
    .error f := ⟨_, rfl⟩
  obtain ⟨hempty, hnext⟩ := untouched_of_failure.1 0 torso f hf
  exact ⟨⟨f, hf⟩, hempty, (hnext Registry.library).1,
    untouched_of_failure.2 _ torso f' rfl hf'⟩

end GraphWalk
