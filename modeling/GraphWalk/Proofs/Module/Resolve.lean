import GraphWalk.Proofs.Module.Collect
import GraphWalk.Proofs.Module.Order
import GraphWalk.Proofs.Registry.Link

/-!
# What resolving leaves

If a set of modules resolves, then all that it declares and defines is in the registry
and fits together: `Complete`. Slots and definitions are collected (`collect_spec`),
linking leaves them alone (`link_spec`), and binding gives each slot the body of its
path (`Bound`), after `bindErrors` has found no definition without a slot and no
concrete slot without a definition.

Main result: `complete_of_resolve`. **Every definition is bound to the slot at its
path, every slot without a body is abstract, and every ability that can be dispatched
is bound or abstract.**
-/

namespace GraphWalk

namespace Registry

/-- What modules declare and define is in the registry, and every slot is defined once
or abstract. -/
structure Complete (mods : List Module) (r : Registry) : Prop where
  frozen : r.frozen = true
  /-- Every slot that is declared is there as declared. -/
  declared : ∀ m ∈ mods, ∀ d ∈ m.architypes, ∀ ab ∈ d.abilities,
    r.Declares ⟨d.kind, d.name⟩ ⟨ab.name, ab.signature, ab.isAbstract⟩
  /-- Every slot is the one at its path. -/
  located : ∀ a ∈ r.archs, ∀ s ∈ a.abilities,
    s.path = ⟨a.kind, a.name, s.name⟩ ∧ r.slotAt? s.path = some s
  /-- No path is defined twice. -/
  once : (mods.flatMap fun m => m.definitions.map Prod.fst).Nodup
  /-- Every definition has a body, and the slot at its path carries it. -/
  defined : ∀ m ∈ mods, ∀ p ∈ m.definitions, ∃ body s, p.2 = some body ∧
    r.slotAt? p.1 = some s ∧ s.bound = some (body, m.name)
  /-- A slot carries a body if and only if a module defines its path so. -/
  bound : ∀ s ∈ r.slots, ∀ body name, s.bound = some (body, name) ↔
    ∃ m ∈ mods, m.name = name ∧ (s.path, some body) ∈ m.definitions
  abstract : ∀ s ∈ r.slots, s.bound = none → s.isAbstract = true
  /-- Own and inherited abilities are slots, and bound or abstract. -/
  effective : ∀ a ∈ r.archs, ∀ s ∈ a.effectiveAbilities,
    s ∈ r.slots ∧ (s.isBound = true ∨ s.isAbstract = true)

variable {r r' : Registry} {a : Architype} {s : Ability} {p : Path} {d : Definition}

/-! ## Slots by their paths -/

/-- A path names the one slot that has it. -/
theorem Tidy.slotAt? (ok : r.Tidy) : r.slotAt? p = some s ↔ s ∈ r.slots ∧ s.path = p := by
  unfold Registry.slotAt? Architype.ability?
  rw [Option.bind_eq_some_iff, mem_slots]
  constructor
  · rintro ⟨a, ha, hs⟩
    obtain ⟨hm, hkey⟩ := ok.find?.1 ha
    obtain ⟨hs, hname⟩ := (find?_eq_some_of_nodup (ok.records a hm).named).1 hs
    refine ⟨⟨a, hm, hs⟩, ?_⟩
    unfold Ability.path
    rw [(ok.records a hm).owned s hs, hkey, hname]
    rfl
  · rintro ⟨⟨a, hm, hs⟩, rfl⟩
    refine ⟨a, ok.find?.2 ⟨hm, ?_⟩, ?_⟩
    · exact ((ok.records a hm).owned s hs).symm
    · exact (find?_eq_some_of_nodup (ok.records a hm).named).2 ⟨hs, rfl⟩

theorem Tidy.definition? (ok : r.Tidy) : r.definition? p = some d ↔ d ∈ r.defs ∧ d.path = p :=
  find?_eq_some_of_nodup ok.paths

/-- Whether a registry is tidy depends on its keys, slots and definitions only. -/
theorem Tidy.of_table (ok : r.Tidy) (ht : r'.table = r.table) (hd : r'.defs = r.defs) :
    r'.Tidy := by
  refine ⟨?_, fun a ha => ?_, by rw [hd]; exact ok.paths⟩
  · rw [← table_keys, ht, table_keys]; exact ok.keys
  · have hm := mem_table ha
    rw [ht] at hm
    obtain ⟨b, hb, hab⟩ := List.mem_map.1 hm
    obtain ⟨hkey, hslots⟩ := Prod.ext_iff.1 hab
    simp only at hkey hslots
    exact ⟨by rw [← hslots, ← hkey]; exact (ok.records b hb).owned,
      by rw [← hslots]; exact (ok.records b hb).named⟩

/-! ## Binding -/

/-- A definition is at fault if there is no slot at its path. -/
theorem unboundError?_eq_none : r.unboundError? d = none ↔ (r.slotAt? d.path).isSome = true := by
  unfold unboundError? slotAt?
  cases r.find? d.path.key with
  | none => simp
  | some a =>
    simp only [Option.bind_some]
    cases a.ability? d.path.ability <;> simp

/-- Nothing is missing if every slot is defined, abstract or bound. -/
theorem missingErrors_eq_nil : r.missingErrors a = [] ↔ ∀ s ∈ a.abilities,
    (r.definition? s.path).isSome = true ∨ s.isAbstract = true ∨ s.isBound = true := by
  unfold missingErrors
  rw [List.map_eq_nil_iff, List.filter_eq_nil_iff]
  refine forall₂_congr fun s _ => ?_
  cases r.definition? s.path <;> cases s.isAbstract <;> cases s.isBound <;> simp

/-- No binding error means that definitions and concrete slots match. -/
theorem bindErrors_eq_nil : r.bindErrors = [] ↔
    (∀ d ∈ r.defs, (r.slotAt? d.path).isSome = true) ∧
    ∀ s ∈ r.slots, (r.definition? s.path).isSome = true ∨ s.isAbstract = true ∨
      s.isBound = true := by
  unfold bindErrors
  rw [List.append_eq_nil_iff, List.filterMap_eq_nil_iff, List.flatMap_eq_nil_iff]
  simp only [unboundError?_eq_none, missingErrors_eq_nil, mem_slots]
  refine and_congr_right fun _ => ?_
  constructor
  · rintro h s ⟨a, ha, hs⟩
    exact h a ha s hs
  · intro h a ha s hs
    exact h s ⟨a, ha, hs⟩

theorem bindSlot_eq (r : Registry) (s : Ability) :
    r.bindSlot s = { s with
      bound := match r.definition? s.path with
        | some d => some (d.body, d.module)
        | none => s.bound } := by
  unfold bindSlot
  cases r.definition? s.path <;> rfl

@[simp]
theorem bindSlot_path (r : Registry) (s : Ability) : (r.bindSlot s).path = s.path := by
  rw [bindSlot_eq]; rfl

@[simp]
theorem bindSlot_name (r : Registry) (s : Ability) : (r.bindSlot s).name = s.name := by
  rw [bindSlot_eq]

theorem bindAll_slots (r : Registry) : r.bindAll.slots = r.slots.map r.bindSlot := by
  unfold slots bindAll
  simp only [List.flatMap_map, List.map_flatMap]

theorem Tidy.bindAll (ok : r.Tidy) : r.bindAll.Tidy := by
  refine ⟨?_, fun b hb => ?_, ok.paths⟩
  · have : r.bindAll.archs.map Architype.key = r.archs.map Architype.key := by
      unfold Registry.bindAll
      simp only [List.map_map]
      rfl
    rw [this]
    exact ok.keys
  · obtain ⟨a, ha, rfl⟩ := List.mem_map.1 hb
    refine ⟨fun s hs => ?_, ?_⟩
    · obtain ⟨t, ht, rfl⟩ := List.mem_map.1 hs
      have := (ok.records a ha).owned t ht
      rw [bindSlot_eq]
      exact this
    · simp only [List.map_map]
      have : Ability.name ∘ r.bindSlot = Ability.name := funext r.bindSlot_name
      rw [this]
      exact (ok.records a ha).named

/-- Binding reaches what is inherited too. -/
theorem bindAll_effective (h : a ∈ r.bindAll.archs) (hs : s ∈ a.effectiveAbilities) :
    ∃ b ∈ r.archs, ∃ t ∈ b.effectiveAbilities, s = r.bindSlot t := by
  obtain ⟨b, hb, rfl⟩ := List.mem_map.1 h
  unfold Architype.effectiveAbilities at hs
  simp only [List.isEmpty_map] at hs
  refine ⟨b, hb, ?_⟩
  unfold Architype.effectiveAbilities
  split at hs
  · obtain ⟨t, ht, rfl⟩ := List.mem_map.1 hs
    rename_i he
    exact ⟨t, by rw [if_pos he]; exact ht, rfl⟩
  · obtain ⟨t, ht, rfl⟩ := List.mem_map.1 hs
    rename_i he
    exact ⟨t, by rw [if_neg he]; exact ht, rfl⟩

/-- The slot at a path is bound in its place. -/
theorem bindAll_slotAt? (ok : r.Tidy) (h : r.slotAt? p = some s) :
    r.bindAll.slotAt? p = some (r.bindSlot s) := by
  obtain ⟨hs, hp⟩ := ok.slotAt?.1 h
  refine ok.bindAll.slotAt?.2 ⟨?_, by rw [bindSlot_path]; exact hp⟩
  rw [bindAll_slots]
  exact List.mem_map.2 ⟨s, hs, rfl⟩

/-- A slot that was unbound is bound to the definition of its path. -/
theorem bindSlot_bound (ok : r.Tidy) (hs : s.bound = none) (body : Body) (name : String) :
    (r.bindSlot s).bound = some (body, name) ↔ (s.path, some body, name) ∈ r.definitions := by
  rw [bindSlot_eq]
  simp only [hs]
  constructor
  · intro h
    cases hd : r.definition? s.path with
    | none => rw [hd] at h; cases h
    | some d =>
      rw [hd] at h
      cases h
      obtain ⟨hm, hp⟩ := ok.definition?.1 hd
      exact List.mem_map.2 ⟨d, hm, by rw [hp]⟩
  · intro h
    obtain ⟨d, hm, hd⟩ := List.mem_map.1 h
    obtain ⟨hp, hb, hn⟩ : d.path = s.path ∧ some d.body = some body ∧ d.module = name := by
      simpa [Prod.ext_iff] using hd
    cases hb
    rw [ok.definition?.2 ⟨hm, hp⟩, ← hn]

end Registry

variable {r : Registry} {mods : List Module} {g : ImportGraph}

/-- The registry after collecting and linking. -/
def linked (r : Registry) (g : ImportGraph) : Registry := (Registry.collect g.order r).1.link.1

/-- The faults of all phases. -/
def faults (r : Registry) (g : ImportGraph) (unknown : List Fault) : List Fault :=
  unknown ++ ((Registry.collect g.order r).2 ++ (Registry.collect g.order r).1.link.2 ++
    (linked r g).bindErrors).map .registry

/-- **Resolving modules that have a graph**: if no phase finds a fault, the registry is
bound and frozen, otherwise it is emptied. -/
theorem resolve_of_graph {unknown : List Fault}
    (h : ImportGraph.ofModules mods = .ok (g, unknown)) :
    (resolve r mods).outcome =
      (if (faults r g unknown).isEmpty then .ok g
        else .error (.resolution (faults r g unknown))) ∧
    (resolve r mods).registry =
      if (faults r g unknown).isEmpty then
        (if (linked r g).frozen then linked r g else (linked r g).bindAll).freeze
      else (linked r g).reset := by
  unfold resolve
  rw [h]
  by_cases hf : (faults r g unknown).isEmpty = true
  · have := hf
    unfold faults linked at hf
    simp only [hf, this, if_true]
    exact ⟨trivial, rfl⟩
  · have := hf
    unfold faults linked at hf
    simp only [hf, this]
    exact ⟨rfl, rfl⟩

/-- Modules that resolve import no module that is not there. -/
theorem ofModules_of_resolve (h : (resolve r mods).outcome = .ok g) :
    ImportGraph.ofModules mods = .ok (g, []) := by
  cases hg : ImportGraph.ofModules mods with
  | error f => unfold resolve at h; rw [hg] at h; cases h
  | ok p =>
    obtain ⟨g', unknown⟩ := p
    obtain ⟨hout, -⟩ := resolve_of_graph (r := r) hg
    rw [hout] at h
    split at h
    · rename_i hfaults
      cases h
      simp only [faults, List.isEmpty_iff, List.append_eq_nil_iff] at hfaults
      rw [hfaults.1]
    · cases h

/-- **A set of modules that resolves**: no phase found a fault. -/
theorem resolve_eq_ok (h : (resolve r mods).outcome = .ok g) :
    (mods.map Module.name).Nodup ∧ g.order.Perm mods ∧
      (Registry.collect g.order r).2 = [] ∧ (linked r g).bindErrors = [] ∧
        (resolve r mods).registry =
          (if (linked r g).frozen then linked r g else (linked r g).bindAll).freeze := by
  have hg := ofModules_of_resolve h
  obtain ⟨hmods, -, hnd⟩ := ImportGraph.ofModules_eq_ok hg
  obtain ⟨hout, hreg⟩ := resolve_of_graph (r := r) hg
  rw [hout] at h
  split at h
  · rename_i hfaults
    rw [if_pos hfaults] at hreg
    simp only [faults, List.isEmpty_iff, List.append_eq_nil_iff, List.map_eq_nil_iff] at hfaults
    refine ⟨hnd, ?_, hfaults.2.1.1, hfaults.2.2, hreg⟩
    rw [← hmods] at hnd
    exact hmods ▸ ImportGraph.order_perm hnd
  · cases h

namespace Registry

/-- The registry that is empty after `n` emptyings; for `0` it is a new one. -/
def emptied (n : Nat) : Registry := { empty with epoch := n }

theorem emptied_clean (n : Nat) : (emptied n).Clean :=
  ⟨⟨List.nodup_nil, fun _ ha => (List.not_mem_nil ha).elim, List.nodup_nil⟩,
    fun _ ha => (List.not_mem_nil ha).elim, rfl⟩

/-- The definitions of a registry that modules in some order have filled. -/
theorem mem_definitions {order : List Module} (hperm : order.Perm mods)
    (hdefs : r.definitions =
      order.flatMap fun m => m.definitions.map fun p => (p.1, p.2, m.name))
    (q : Path) (body : Option Body) (name : String) :
    (q, body, name) ∈ r.definitions ↔ ∃ m ∈ mods, m.name = name ∧ (q, body) ∈ m.definitions := by
  rw [hdefs, List.mem_flatMap]
  constructor
  · rintro ⟨m, hm, h⟩
    obtain ⟨p, hp, he⟩ := List.mem_map.1 h
    cases he
    exact ⟨m, hperm.mem_iff.1 hm, rfl, hp⟩
  · rintro ⟨m, hm, rfl, h⟩
    exact ⟨m, hperm.mem_iff.2 hm, List.mem_map.2 ⟨_, h, rfl⟩⟩

/-- Binding completes a registry whose definitions and slots match. -/
theorem complete_of_bind (ok : r.Tidy) (hunbound : ∀ s ∈ r.slots, s.bound = none)
    (heffective : ∀ a ∈ r.archs, ∀ s ∈ a.effectiveAbilities, s ∈ r.slots)
    {order : List Module} (hperm : order.Perm mods)
    (hdefs : r.definitions =
      order.flatMap fun m => m.definitions.map fun p => (p.1, p.2, m.name))
    (hdecl : ∀ m ∈ mods, ∀ d ∈ m.architypes, ∀ ab ∈ d.abilities,
      r.Declares ⟨d.kind, d.name⟩ ⟨ab.name, ab.signature, ab.isAbstract⟩)
    (hbind : r.bindErrors = []) : r.bindAll.freeze.Complete mods := by
  obtain ⟨hfit, hmissing⟩ := bindErrors_eq_nil.1 hbind
  have hslots : ∀ s ∈ r.bindAll.slots, ∃ t ∈ r.slots, s = r.bindSlot t := fun s hs => by
    rw [bindAll_slots] at hs
    obtain ⟨t, ht, rfl⟩ := List.mem_map.1 hs
    exact ⟨t, ht, rfl⟩
  -- a slot that is left without a body has no definition
  have habstract : ∀ s ∈ r.bindAll.slots, s.bound = none → s.isAbstract = true := by
    intro s hs hb
    obtain ⟨t, ht, rfl⟩ := hslots s hs
    rw [bindSlot_eq] at hb ⊢
    have hnone : r.definition? t.path = none := by
      cases hd : r.definition? t.path with
      | none => rfl
      | some d => rw [hd] at hb; cases hb
    have hnb : t.isBound = false := by
      unfold Ability.isBound
      rw [hunbound t ht]
      rfl
    simpa [hnone, hnb] using hmissing t ht
  refine ⟨rfl, fun m hm d hd ab hab => ?_, fun a ha s hs => ?_, ?_, fun m hm p hp => ?_,
    fun s hs body name => ?_, habstract, fun a ha s hs => ?_⟩
  · obtain ⟨s, hs, hsig, habs⟩ := hdecl m hm d hd ab hab
    refine ⟨r.bindSlot s, bindAll_slotAt? ok hs, ?_⟩
    rw [bindSlot_eq]
    exact ⟨hsig, habs⟩
  · have howned := (ok.bindAll.records a ha).owned s hs
    refine ⟨by unfold Ability.path; rw [howned]; rfl, ?_⟩
    exact ok.bindAll.slotAt?.2 ⟨mem_slots.2 ⟨a, ha, hs⟩, rfl⟩
  · -- the registry has every definition of the modules, and its paths are distinct
    have hpaths : r.defs.map Definition.path =
        order.flatMap fun m => m.definitions.map Prod.fst := by
      have := congrArg (List.map Prod.fst) hdefs
      unfold definitions at this
      simpa [List.map_flatMap, Function.comp_def] using this
    have hnd := ok.paths
    rw [hpaths] at hnd
    exact (hperm.flatMap_right _).nodup_iff.1 hnd
  · have hmem := (mem_definitions hperm hdefs p.1 p.2 m.name).2 ⟨m, hm, rfl, hp⟩
    obtain ⟨d, hd, he⟩ := List.mem_map.1 hmem
    obtain ⟨hpath, hbody, hname⟩ : d.path = p.1 ∧ some d.body = p.2 ∧ d.module = m.name := by
      simpa [Prod.ext_iff] using he
    obtain ⟨s, hs⟩ := Option.isSome_iff_exists.1 (hfit d hd)
    rw [hpath] at hs
    have hin := ok.slotAt?.1 hs
    refine ⟨d.body, r.bindSlot s, hbody.symm, bindAll_slotAt? ok hs, ?_⟩
    rw [bindSlot_bound ok (hunbound s hin.1), hin.2, hbody]
    exact hmem
  · obtain ⟨t, ht, rfl⟩ := hslots s hs
    rw [bindSlot_bound ok (hunbound t ht), bindSlot_path]
    exact mem_definitions hperm hdefs _ _ _
  · obtain ⟨b, hb, t, ht, rfl⟩ := bindAll_effective ha hs
    have hin : r.bindSlot t ∈ r.bindAll.slots := by
      rw [bindAll_slots]
      exact List.mem_map.2 ⟨t, heffective b hb t ht, rfl⟩
    refine ⟨hin, ?_⟩
    cases hbound : (r.bindSlot t).bound with
    | none => exact Or.inr (habstract _ hin hbound)
    | some b => exact Or.inl (by unfold Ability.isBound; rw [hbound]; rfl)

/-- **Completeness and uniqueness of binding**: if a set of modules resolves into a new
registry, then everything it declares and defines is there, each definition is bound to
the slot at its path and to no other, and what is not bound is abstract. -/
theorem complete_of_resolve (n : Nat) (mods : List Module) (g : ImportGraph)
    (h : (resolve (emptied n) mods).outcome = .ok g) :
    (resolve (emptied n) mods).registry.Complete mods := by
  obtain ⟨hnd, hperm, hcollect, hbind, hr⟩ := resolve_eq_ok h
  obtain ⟨hclean, -, hdefs, hdecl⟩ := collect_spec g.order (emptied_clean n)
    ((hperm.map _).nodup_iff.2 hnd) (fun m _ d hd => (List.not_mem_nil hd).elim)
    (Prod.ext rfl hcollect)
  have hlink : Linking _ (linked (emptied n) g) :=
    link_spec hclean.tidy.keys fun a ha => (hclean.bare a ha).unlinked
  have ok : (linked (emptied n) g).Tidy := hclean.tidy.of_table hlink.table hlink.defs
  rw [hr, if_neg (by rw [hlink.frozen, hclean.frozen]; exact Bool.false_ne_true)]
  refine complete_of_bind ok (fun s hs => ?_) (fun a ha s hs => ?_) hperm ?_
    (fun m hm d hd ab hab => ?_) hbind
  · -- nothing is bound before linking, and linking binds nothing
    rw [hlink.slots] at hs
    obtain ⟨a, ha, hs⟩ := mem_slots.1 hs
    exact (hclean.bare a ha).unbound s hs
  · rw [hlink.slots]
    exact hlink.effective ha hs
  · unfold definitions
    rw [hlink.defs]
    exact hdefs
  · obtain ⟨s, hs, hspec⟩ := hdecl m (hperm.mem_iff.2 hm) d hd ab hab
    refine ⟨s, ok.slotAt?.2 ?_, hspec⟩
    rw [hlink.slots]
    exact hclean.tidy.slotAt?.1 hs

/-- A walker whose step is defined by the module that imports it, with a plan left open
and an heir that stops on its own. -/
def library : List Module :=
  let pos : Pos := ⟨"m", 1⟩
  let signature : Signature := ⟨[], .entry, []⟩
  let step : AbilityDecl := ⟨pos, "step", signature, false, none⟩
  let plan : AbilityDecl := ⟨pos, "plan", signature, true, none⟩
  let stop : AbilityDecl :=
    ⟨pos, "stop", signature, false, some ⟨.native, fun _ => Program.disengage⟩⟩
  [⟨"app", "app", [.imported ⟨pos, "lib"⟩,
      .impl ⟨pos, ⟨.walker, "Base", "step"⟩, some ⟨.native, fun _ => .done ()⟩⟩,
      .arch ⟨pos, .walker, "Agent", ["Base"], [], [stop], false⟩], 0⟩,
    ⟨"lib", "lib", [.arch ⟨pos, .walker, "Base", [], [], [step, plan], false⟩], 1⟩]

theorem complete_library :
    (resolve .empty library).outcome = .ok ⟨library⟩ ∧
      (resolve .empty library).registry.Complete library := by
  have h : (resolve .empty library).outcome = .ok ⟨library⟩ := by rfl
  exact ⟨h, complete_of_resolve 0 library ⟨library⟩ h⟩

end Registry

end GraphWalk
