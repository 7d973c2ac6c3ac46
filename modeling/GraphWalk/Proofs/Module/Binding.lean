import GraphWalk.Proofs.Module.Failure
import GraphWalk.Proofs.Module.Requests

/-!
# The errors of binding

Binding reports each definition without a slot and each concrete slot without a definition, both
under their paths, and no path twice (`bindErrors_eq`, `Tidy.nodup_subjects`). A registry that
was filled without an error `Holds` what the modules declare and define and nothing else, so these
are the misfits of the modules: a definition at a path that no module declares, and a concrete
slot that no module defines, charged to the first module that declares it.

Main result: `misfits_of_resolve`. **If no earlier phase finds a fault, resolving fails exactly if
there is a misfit**, and reports the misfits, each once.
-/

namespace GraphWalk

/-- What an error is about, where that is an architype or a path. -/
def RegistryError.subject? : RegistryError → Option Subject
  | .issue _ subject _ _ => some subject
  | _ => none

/-- A definition without a slot, or a concrete slot without a definition, with the error that
says so. -/
inductive Misfit (order : List Module) : RegistryError → Prop where
  | unbound {m : Module} {p : Path} {body : Option Body} {detail : String} :
    m ∈ order → (p, body) ∈ m.definitions → (∀ m' ∈ order, ∀ s ∈ m'.slots, s.1 ≠ p) →
    detail = (if ∃ m' ∈ order, p.key ∈ m'.keys then "no such ability slot"
      else "architype is not declared") →
    Misfit order (.issue .unboundDefinition (.path p) m.name detail)
  | missing {pre post : List Module} {m : Module} {p : Path} :
    order = pre ++ m :: post → (p, false) ∈ m.slots → (∀ m' ∈ pre, ∀ s ∈ m'.slots, s.1 ≠ p) →
    (∀ m' ∈ order, ∀ q ∈ m'.definitions, q.1 ≠ p) →
    Misfit order (.issue .missingDefinition (.path p) m.name "")

namespace Registry

variable {r r' : Registry} {d : Definition} {s : Ability} {p : Path} {e : RegistryError}
  {order : List Module}

/-! ## The list of errors -/

/-- The error for a definition without a slot. -/
def unboundError (r : Registry) (d : Definition) : RegistryError :=
  .issue .unboundDefinition (.path d.path) d.module
    (if (r.find? d.path.key).isSome then "no such ability slot" else "architype is not declared")

/-- The error for a slot without a definition. -/
def missingError (s : Ability) : RegistryError :=
  .issue .missingDefinition (.path s.path) s.declModule ""

theorem unboundError?_eq (r : Registry) (d : Definition) :
    r.unboundError? d = if (r.slotAt? d.path).isNone then some (r.unboundError d) else none := by
  unfold unboundError? slotAt? unboundError
  cases r.find? d.path.key with
  | none => rfl
  | some a =>
    obtain hslot | ⟨s, hslot⟩ := Option.eq_none_or_eq_some (a.ability? d.path.ability)
    · simp [hslot]
    · simp [hslot]

/-- **The errors of binding**: definitions without a slot, then slots without a definition. -/
theorem bindErrors_eq (r : Registry) : r.bindErrors =
    (r.defs.filter fun d => (r.slotAt? d.path).isNone).map r.unboundError ++
      (r.slots.filter fun s =>
        (r.definition? s.path).isNone && !s.isAbstract && !s.isBound).map missingError := by
  have hunbound : ∀ ds : List Definition, ds.filterMap r.unboundError? =
      (ds.filter fun d => (r.slotAt? d.path).isNone).map r.unboundError := fun ds => by
    induction ds with
    | nil => rfl
    | cons d ds ih =>
      rw [List.filterMap_cons, unboundError?_eq, List.filter_cons, ih]
      by_cases hnone : (r.slotAt? d.path).isNone = true
      · rw [if_pos hnone, if_pos hnone]
        rfl
      · rw [if_neg hnone, if_neg hnone]
  unfold bindErrors slots
  rw [hunbound, List.filter_flatMap, List.map_flatMap]
  rfl

/-- A path names one slot at most. -/
theorem Tidy.slot_paths (ok : r.Tidy) : (r.slots.map Ability.path).Nodup := by
  unfold Registry.slots
  rw [List.map_flatMap, List.nodup_flatMap]
  have hkey : ∀ a ∈ r.archs, ∀ q ∈ a.abilities.map Ability.path, q.key = a.key := by
    intro a ha q hq
    obtain ⟨s, hs, rfl⟩ := List.mem_map.1 hq
    exact (ok.records a ha).owned s hs
  constructor
  · intro a ha
    refine List.Nodup.of_map Path.ability ?_
    rw [List.map_map]
    exact (ok.records a ha).named
  · refine (List.pairwise_map.1 ok.keys).imp_of_mem fun ha hb hne => ?_
    refine List.disjoint_left.2 fun q hqa hqb => ?_
    exact hne ((hkey _ ha q hqa).symm.trans (hkey _ hb q hqb))

/-- **No path is reported twice.** -/
theorem Tidy.nodup_subjects (ok : r.Tidy) : (r.bindErrors.map RegistryError.subject?).Nodup := by
  have hsubjects : r.bindErrors.map RegistryError.subject? =
      ((r.defs.filter fun d => (r.slotAt? d.path).isNone).map Definition.path ++
        (r.slots.filter fun s =>
          (r.definition? s.path).isNone && !s.isAbstract && !s.isBound).map Ability.path).map
        (some ∘ Subject.path) := by
    rw [bindErrors_eq, List.map_append, List.map_append, List.map_map, List.map_map, List.map_map,
      List.map_map]
    rfl
  have hinj : Function.Injective (some ∘ Subject.path) := fun p q h => by
    cases h
    rfl
  rw [hsubjects]
  refine List.Nodup.map hinj (List.nodup_append.2 ⟨?_, ?_, ?_⟩)
  · exact ok.paths.sublist (List.filter_sublist.map _)
  · exact ok.slot_paths.sublist (List.filter_sublist.map _)
  · -- the one has no slot at its path, the other is the slot there
    rintro p hp q hq rfl
    obtain ⟨d, hd, hdp⟩ := List.mem_map.1 hp
    obtain ⟨s, hs, hsp⟩ := List.mem_map.1 hq
    have hslot := ok.slotAt?.2 ⟨(List.mem_filter.1 hs).1, hsp⟩
    have hnone := (List.mem_filter.1 hd).2
    rw [hdp, hslot] at hnone
    cases hnone

/-! ## What the registry holds -/

/-- The first declaration of a slot, with the module that makes it. -/
def declared? (order : List Module) (p : Path) : Option (Path × String × Bool) :=
  (order.flatMap fun m => m.slots.map fun s => (s.1, m.name, s.2)).find? (·.1 = p)

theorem declared?_eq_none : declared? order p = none ↔ ∀ m ∈ order, ∀ s ∈ m.slots, s.1 ≠ p := by
  unfold declared?
  rw [List.find?_eq_none]
  simp only [List.mem_flatMap, List.mem_map, decide_eq_true_eq]
  constructor
  · intro h m hm s hs
    exact h _ ⟨m, hm, s, hs, rfl⟩
  · rintro h _ ⟨m, hm, s, hs, rfl⟩
    exact h m hm s hs

/-- It is made by the first module that declares the slot. -/
theorem declared?_append {pre : List Module} (post : List Module) {m : Module} {b : Bool}
    (hpre : ∀ m' ∈ pre, ∀ s ∈ m'.slots, s.1 ≠ p) (hm : (p, b) ∈ m.slots) :
    ∃ b', (p, b') ∈ m.slots ∧ declared? (pre ++ m :: post) p = some (p, m.name, b') := by
  have hfirst : ((m.slots.map fun s => (s.1, m.name, s.2)).find? (·.1 = p)).isSome = true :=
    List.find?_isSome.2 ⟨_, List.mem_map_of_mem hm, by simp⟩
  obtain ⟨t, ht⟩ := Option.isSome_iff_exists.1 hfirst
  obtain ⟨⟨q, b'⟩, hs, rfl⟩ := List.mem_map.1 (List.mem_of_find?_eq_some ht)
  obtain rfl : q = p := by simpa using List.find?_some ht
  refine ⟨b', hs, ?_⟩
  have hnone : (pre.flatMap fun m => m.slots.map fun s => (s.1, m.name, s.2)).find? (·.1 = q) =
    none := declared?_eq_none.2 hpre
  unfold declared?
  rw [List.flatMap_append, List.find?_append, hnone, Option.none_or, List.flatMap_cons,
    List.find?_append, ht, Option.some_or]

/-- Of the modules that declare a slot, one comes first. -/
theorem exists_first {m : Module} {b : Bool} (hm : m ∈ order) (hs : (p, b) ∈ m.slots) :
    ∃ pre m' post b', order = pre ++ m' :: post ∧ (p, b') ∈ m'.slots ∧
      ∀ x ∈ pre, ∀ s ∈ x.slots, s.1 ≠ p := by
  have hsome : (order.find? fun m => m.slots.any (·.1 = p)).isSome = true :=
    List.find?_isSome.2 ⟨m, hm, List.any_eq_true.2 ⟨_, hs, by simp⟩⟩
  obtain ⟨m', hfind⟩ := Option.isSome_iff_exists.1 hsome
  obtain ⟨hany, pre, post, rfl, hpre⟩ := List.find?_eq_some_iff_append.1 hfind
  obtain ⟨⟨q, b'⟩, hmem, hq⟩ := List.any_eq_true.1 hany
  obtain rfl : q = p := by simpa using hq
  refine ⟨pre, m', post, b', rfl, hmem, fun x hx s hs' heq => ?_⟩
  have hno := hpre x hx
  simp only [Bool.not_eq_true', List.any_eq_false] at hno
  exact hno s hs' (by simpa using heq)

/-- **The registry holds** what the modules declare and define, in this order, and no more. -/
structure Holds (order : List Module) (r : Registry) : Prop where
  tidy : r.Tidy
  unbound : ∀ s ∈ r.slots, s.bound = none
  slot : ∀ p, (r.slotAt? p).map (fun s => (s.declModule, s.isAbstract)) =
    (declared? order p).map Prod.snd
  agrees : ∀ m ∈ order, ∀ p b, (p, b) ∈ m.slots → ∃ s, r.slotAt? p = some s ∧ s.isAbstract = b
  record : ∀ k, (r.find? k).isSome = true ↔ ∃ m ∈ order, k ∈ m.keys
  definitions : r.definitions =
    order.flatMap fun m => m.definitions.map fun p => (p.1, p.2, m.name)

/-- Modules that were collected without an error are held. -/
theorem holds_of_collect (n : Nat) (hnd : (order.map Module.name).Nodup)
    (h : collect order (emptied n) = (r, [])) : r.Holds order := by
  have hempty := emptied_clean n
  obtain ⟨hclean, -, hdefs, hdecl⟩ := collect_spec order hempty hnd
    (fun m _ d hd => (List.not_mem_nil hd).elim) h
  have haccept := accepts_of_collect order h
  refine ⟨hclean.tidy, fun s hs => ?_, fun p => ?_, fun m hm p b hs => ?_, fun k => ?_, hdefs⟩
  · obtain ⟨a, ha, hs⟩ := mem_slots.1 hs
    exact (hclean.bare a ha).unbound s hs
  · rw [haccept.slotAt? hempty.tidy p, List.filterMap_flatMap]
    simp only [Module.calls_slots]
    rfl
  · obtain ⟨d, hd, ab, hab, rfl, rfl⟩ := Module.mem_slots hs
    obtain ⟨s, hs, -, habs⟩ := hdecl m hm d hd ab hab
    exact ⟨s, hs, habs⟩
  · rw [haccept.isSome_find? hempty.tidy k, List.filterMap_flatMap, List.mem_flatMap]
    simp only [Module.calls_keys]
    exact or_iff_right (by rintro ⟨⟩)

/-- Linking leaves them alone. -/
theorem Holds.linking (h : r.Holds order) (hlink : r.Linking r') : r'.Holds order := by
  have ok : r'.Tidy := h.tidy.of_table hlink.table hlink.defs
  have hslot : ∀ p, r'.slotAt? p = r.slotAt? p := fun p => by
    ext s
    rw [ok.slotAt?, h.tidy.slotAt?, hlink.slots]
  have hkeys : r'.archs.map Architype.key = r.archs.map Architype.key := by
    rw [← table_keys, hlink.table, table_keys]
  refine ⟨ok, hlink.slots ▸ h.unbound, fun p => by rw [hslot]; exact h.slot p,
    fun m hm p b hs => by rw [hslot]; exact h.agrees m hm p b hs, fun k => ?_, ?_⟩
  · rw [← h.record k, Option.isSome_iff_ne_none, Option.isSome_iff_ne_none, Ne, Ne,
      find?_eq_none, find?_eq_none, hkeys]
  · rw [← h.definitions]
    unfold Registry.definitions
    rw [hlink.defs]

theorem Holds.slotAt?_eq_none (h : r.Holds order) :
    r.slotAt? p = none ↔ ∀ m ∈ order, ∀ s ∈ m.slots, s.1 ≠ p := by
  rw [← declared?_eq_none, ← Option.map_eq_none_iff, h.slot p, Option.map_eq_none_iff]

theorem Holds.mem_defs (h : r.Holds order) {q : Path} {body : Option Body} {name : String} :
    (∃ d ∈ r.defs, d.path = q ∧ some d.body = body ∧ d.module = name) ↔
      ∃ m ∈ order, m.name = name ∧ (q, body) ∈ m.definitions := by
  rw [← mem_definitions (List.Perm.refl order) h.definitions]
  unfold Registry.definitions
  simp [Prod.ext_iff]

theorem Holds.definition?_eq_none (h : r.Holds order) :
    r.definition? p = none ↔ ∀ m ∈ order, ∀ q ∈ m.definitions, q.1 ≠ p := by
  unfold Registry.definition?
  rw [List.find?_eq_none]
  simp only [decide_eq_true_eq]
  constructor
  · rintro hno m hm ⟨q, body⟩ hq rfl
    obtain ⟨d, hd, hp, -⟩ := h.mem_defs.2 ⟨m, hm, rfl, hq⟩
    exact hno d hd hp
  · rintro hno d hd rfl
    obtain ⟨m, hm, -, hq⟩ := h.mem_defs.1 ⟨d, hd, rfl, rfl, rfl⟩
    exact hno m hm _ hq rfl

/-- A slot comes from the first module that declares it. -/
theorem Holds.declModule (h : r.Holds order) {pre post : List Module} {m : Module} {b : Bool}
    (horder : order = pre ++ m :: post) (hpre : ∀ m' ∈ pre, ∀ s ∈ m'.slots, s.1 ≠ p)
    (hm : (p, b) ∈ m.slots) (hs : r.slotAt? p = some s) : s.declModule = m.name := by
  obtain ⟨b', -, hfirst⟩ := declared?_append post hpre hm
  have hslot := h.slot p
  rw [hs, horder, hfirst] at hslot
  exact congrArg Prod.fst (Option.some.inj hslot)

theorem Holds.isBound (h : r.Holds order) (hs : s ∈ r.slots) : s.isBound = false := by
  unfold Ability.isBound
  rw [h.unbound s hs]
  rfl

/-- **The errors of binding are the misfits** of the modules. -/
theorem Holds.mem_bindErrors (h : r.Holds order) : e ∈ r.bindErrors ↔ Misfit order e := by
  have hdetail : ∀ k : ArchKey,
      (if (r.find? k).isSome = true then "no such ability slot" else "architype is not declared") =
        if ∃ m ∈ order, k ∈ m.keys then "no such ability slot" else "architype is not declared" :=
    fun k => if_congr (h.record k) rfl rfl
  rw [bindErrors_eq, List.mem_append, List.mem_map, List.mem_map]
  constructor
  · rintro (⟨d, hd, rfl⟩ | ⟨s, hs, rfl⟩)
    · obtain ⟨hd, hnone⟩ := List.mem_filter.1 hd
      obtain ⟨m, hm, hname, hdef⟩ := h.mem_defs.1 ⟨d, hd, rfl, rfl, rfl⟩
      have hfree := h.slotAt?_eq_none.1 (Option.isNone_iff_eq_none.1 hnone)
      have hmisfit := Misfit.unbound hm hdef hfree (hdetail d.path.key)
      rwa [hname] at hmisfit
    · obtain ⟨hs, hcond⟩ := List.mem_filter.1 hs
      simp only [Bool.and_eq_true, Option.isNone_iff_eq_none, Bool.not_eq_true'] at hcond
      obtain ⟨⟨hundefined, hconcrete⟩, -⟩ := hcond
      have hslot := h.tidy.slotAt?.2 ⟨hs, rfl⟩
      obtain ⟨m, hm, b, hb⟩ : ∃ m ∈ order, ∃ b, (s.path, b) ∈ m.slots := by
        by_contra hno
        push Not at hno
        have hfree := (h.slotAt?_eq_none (p := s.path)).2 fun m hm t ht heq =>
          hno m hm t.2 (by rw [← heq]; exact ht)
        rw [hslot] at hfree
        cases hfree
      obtain ⟨pre, m', post, b', horder, hb', hpre⟩ := exists_first hm hb
      have hm' : m' ∈ order := horder ▸ List.mem_append_right _ List.mem_cons_self
      obtain ⟨t, ht, habs⟩ := h.agrees m' hm' _ _ hb'
      obtain rfl : s = t := Option.some.inj (hslot.symm.trans ht)
      obtain rfl : b' = false := habs.symm.trans hconcrete
      unfold missingError
      rw [h.declModule horder hpre hb' hslot]
      exact .missing horder hb' hpre (h.definition?_eq_none.1 hundefined)
  · rintro (⟨hm, hdef, hfree, rfl⟩ | ⟨horder, hb, hpre, hundefined⟩)
    · obtain ⟨d, hd, rfl, -, hname⟩ := h.mem_defs.2 ⟨_, hm, rfl, hdef⟩
      refine Or.inl ⟨d, List.mem_filter.2 ⟨hd, ?_⟩, ?_⟩
      · exact Option.isNone_iff_eq_none.2 (h.slotAt?_eq_none.2 hfree)
      · unfold unboundError
        rw [hname, hdetail]
    · obtain ⟨s, hslot, habs⟩ :=
        h.agrees _ (horder ▸ List.mem_append_right _ List.mem_cons_self) _ _ hb
      obtain ⟨hs, rfl⟩ := h.tidy.slotAt?.1 hslot
      refine Or.inr ⟨s, List.mem_filter.2 ⟨hs, ?_⟩, ?_⟩
      · rw [h.definition?_eq_none.2 hundefined, habs, h.isBound hs]
        rfl
      · unfold missingError
        rw [h.declModule horder hpre hb hslot]

/-- There is a misfit if a definition has no slot or a concrete slot no definition. -/
theorem Holds.exists_misfit (h : r.Holds order) : (∃ e, Misfit order e) ↔
    (∃ m ∈ order, ∃ q ∈ m.definitions, ∀ m' ∈ order, ∀ s ∈ m'.slots, s.1 ≠ q.1) ∨
      ∃ m ∈ order, ∃ p, (p, false) ∈ m.slots ∧
        ∀ m' ∈ order, ∀ q ∈ m'.definitions, q.1 ≠ p := by
  constructor
  · rintro ⟨e, ⟨hm, hdef, hfree, -⟩ | ⟨rfl, hb, -, hundefined⟩⟩
    · exact Or.inl ⟨_, hm, _, hdef, hfree⟩
    · exact Or.inr ⟨_, List.mem_append_right _ List.mem_cons_self, _, hb, hundefined⟩
  · rintro (⟨m, hm, q, hdef, hfree⟩ | ⟨m, hm, p, hb, hundefined⟩)
    · exact ⟨_, .unbound hm hdef hfree rfl⟩
    · -- the first module that declares the slot has it concrete too
      obtain ⟨pre, m', post, b', horder, hb', hpre⟩ := exists_first hm hb
      have hm' : m' ∈ order := horder ▸ List.mem_append_right _ List.mem_cons_self
      obtain ⟨s, hs, habs⟩ := h.agrees m hm p false hb
      obtain ⟨s', hs', habs'⟩ := h.agrees m' hm' p b' hb'
      obtain rfl : s = s' := Option.some.inj (hs.symm.trans hs')
      obtain rfl : b' = false := habs'.symm.trans habs
      exact ⟨_, .missing horder hb' hpre hundefined⟩

end Registry

open Registry (emptied)

/-- **Resolving fails exactly if there is a misfit**, where no earlier phase finds a fault: a
definition whose path names no slot that is declared, or a concrete slot that nothing defines.
It reports the misfits then, no path of them twice, and nothing else. -/
theorem misfits_of_resolve (n : Nat) (mods : List Module) (g : ImportGraph)
    (hg : ImportGraph.ofModules mods = .ok (g, []))
    (hcollect : (Registry.collect g.order (emptied n)).2 = [])
    (hlink : (Registry.collect g.order (emptied n)).1.link.2 = []) :
    let outcome := (resolve (emptied n) mods).outcome
    ((∃ f, outcome = .error f) ↔
      (∃ m ∈ mods, ∃ q ∈ m.definitions, ∀ m' ∈ mods, ∀ s ∈ m'.slots, s.1 ≠ q.1) ∨
        ∃ m ∈ mods, ∃ p, (p, false) ∈ m.slots ∧
          ∀ m' ∈ mods, ∀ q ∈ m'.definitions, q.1 ≠ p) ∧
      ∀ f, outcome = .error f → ∃ es : List RegistryError,
        f = .resolution (es.map .registry) ∧ (es.map RegistryError.subject?).Nodup ∧
          ∀ e, e ∈ es ↔ Misfit g.order e := by
  intro outcome
  obtain ⟨rfl, -, hnd⟩ := ImportGraph.ofModules_eq_ok hg
  have hperm := ImportGraph.order_perm hnd
  have hholds := (Registry.holds_of_collect n ((hperm.map _).nodup_iff.2 hnd)
    (Prod.ext rfl hcollect)).linking (linking_emptied n g)
  have hfaults : faults (emptied n) g [] = (linked (emptied n) g).bindErrors.map .registry := by
    unfold faults
    rw [hcollect, hlink]
    rfl
  obtain ⟨hout, -⟩ := resolve_of_graph (r := emptied n) hg
  have hout : outcome = if (linked (emptied n) g).bindErrors.isEmpty then .ok g
      else .error (.resolution ((linked (emptied n) g).bindErrors.map .registry)) := by
    rw [hfaults, List.isEmpty_map] at hout
    exact hout
  have hmisfit := hholds.exists_misfit
  simp only [hperm.mem_iff] at hmisfit
  rw [← hmisfit, hout]
  simp only [← hholds.mem_bindErrors]
  by_cases hnil : (linked (emptied n) g).bindErrors = []
  · rw [hnil]
    simp
  · rw [if_neg (by simpa using hnil)]
    refine ⟨iff_of_true ⟨_, rfl⟩ (List.exists_mem_of_ne_nil _ hnil), fun f hf => ?_⟩
    cases hf
    exact ⟨_, rfl, hholds.tidy.nodup_subjects, fun e => Iff.rfl⟩

/-- Two modules that declare one slot and do not define it, and define what is not declared: a slot
that only a base has, and one of an architype that is not there. -/
def leftovers : List Module :=
  let pos : Pos := ⟨"m", 1⟩
  let slot := fun (name : String) (isAbstract : Bool) (body : Option Body) =>
    (⟨pos, name, ⟨[], .entry, []⟩, isAbstract, body⟩ : AbilityDecl)
  let body : Body := ⟨.native, fun _ => .done ()⟩
  [⟨"b", "b", [.imported ⟨pos, "a"⟩,
      .arch ⟨pos, .node, "City", [], [], [slot "greet" false none], false⟩,
      .impl ⟨pos, ⟨.node, "Port", "part"⟩, body⟩, .impl ⟨pos, ⟨.node, "Town", "greet"⟩, body⟩], 0⟩,
    ⟨"a", "a", [
      .arch ⟨pos, .node, "City", [], [],
        [slot "greet" false none, slot "part" false body, slot "plan" true none], false⟩,
      .arch ⟨pos, .node, "Port", ["City"], [], [], false⟩], 1⟩]

theorem misfits_leftovers :
    let es : List RegistryError :=
      [.issue .unboundDefinition (.path ⟨.node, "Port", "part"⟩) "b" "no such ability slot",
        .issue .unboundDefinition (.path ⟨.node, "Town", "greet"⟩) "b" "architype is not declared",
        .issue .missingDefinition (.path ⟨.node, "City", "greet"⟩) "a" ""]
    ImportGraph.ofModules leftovers = .ok (⟨leftovers⟩, []) ∧
      (Registry.collect (⟨leftovers⟩ : ImportGraph).order (emptied 0)).2 = [] ∧
      (Registry.collect (⟨leftovers⟩ : ImportGraph).order (emptied 0)).1.link.2 = [] ∧
      (resolve (emptied 0) leftovers).outcome = .error (.resolution (es.map .registry)) ∧
      (es.map RegistryError.subject?).Nodup ∧
      ∀ e, e ∈ es ↔ Misfit (⟨leftovers⟩ : ImportGraph).order e := by
  intro es
  have hg : ImportGraph.ofModules leftovers = .ok (⟨leftovers⟩, []) := by rfl
  have hcollect : (Registry.collect (⟨leftovers⟩ : ImportGraph).order (emptied 0)).2 = [] := by rfl
  have hlink : (Registry.collect (⟨leftovers⟩ : ImportGraph).order (emptied 0)).1.link.2 = [] := by
    rfl
  have hout : (resolve (emptied 0) leftovers).outcome =
      .error (.resolution (es.map .registry)) := by rfl
  obtain ⟨-, hall⟩ := misfits_of_resolve 0 leftovers ⟨leftovers⟩ hg hcollect hlink
  obtain ⟨es', hes', hnd, hmem⟩ := hall _ hout
  have hinj : Function.Injective Fault.registry := fun _ _ h => by
    cases h
    rfl
  obtain rfl : es = es' := List.map_injective_iff.2 hinj (Fault.resolution.inj hes')
  exact ⟨hg, hcollect, hlink, hout, hnd, hmem⟩

end GraphWalk
