import GraphWalk.Module.Resolve
import GraphWalk.Proofs.Registry.Register

/-!
# What collecting leaves

`Module.definitions` lists what a module defines: the bodies given with its slots and
those given apart, in order. If collecting modules reports no error, then every slot
they declare is there as declared, and the definitions of the registry are those of
the modules, in order and none left out: `collect_spec`. A definition could be left
out only if it were taken for one that is there already, with the same origin; the
origins of a run are all different (`Marked`).
-/

namespace GraphWalk

/-- The paths that an element defines, with what it gives for them. -/
def Element.definitions : Element → List (Path × Option Body)
  | .arch d => (d.abilities.filter (·.body.isSome)).map fun ab =>
      (⟨d.kind, d.name, ab.name⟩, ab.body)
  | .impl d => [(d.path, d.body)]
  | _ => []

def Module.definitions (m : Module) : List (Path × Option Body) :=
  m.elements.flatMap Element.definitions

namespace Registry

/-- A registry that was filled and not linked. -/
structure Clean (r : Registry) : Prop where
  tidy : r.Tidy
  bare : ∀ a ∈ r.archs, a.Bare
  frozen : r.frozen = false

/-- The definitions with the names of their modules. -/
def definitions (r : Registry) : List (Path × Option Body × String) :=
  r.defs.map fun d => (d.path, some d.body, d.module)

/-- The names of modules that definitions have come from, and how far: those of module
`name` come from elements before `element`, or from it and abilities before `ability`. -/
def Marked (r : Registry) (name : String) (element ability : Nat) : Prop :=
  ∀ d ∈ r.defs, ∀ o, d.origin = some o → o.label = name →
    o.element < element ∨ o.element = element ∧ o.ability < ability

variable {r r' : Registry} {a : Architype} {key : ArchKey} {m : Module} {module name : String}

theorem Clean.put (ok : r.Clean) (ht : (r.put a).Tidy) (hb : a.Bare) : (r.put a).Clean := by
  refine ⟨ht, fun b hb' => ?_, by rw [put_frozen]; exact ok.frozen⟩
  rcases mem_put hb' with rfl | hb'
  · exact hb
  · exact ok.bare b hb'

theorem Clean.record_bare (ok : r.Clean) : (r.record module key).Bare :=
  record_of_forall ok.bare ⟨fun s hs => by simp [Architype.new] at hs, rfl⟩

/-- Registering an architype keeps a registry clean, and keeps the slots that are there in front. -/
theorem Clean.registerArchitype (ok : r.Clean) {spec : ArchSpec}
    (h : r.registerArchitype module key spec = .ok (r', a)) :
    r'.Clean ∧ r.Grows r' ∧ r'.defs = r.defs := by
  have ht := ok.tidy.registerArchitype h
  obtain ⟨rfl, hkey, hab, hlinked⟩ := registerArchitype_eq ok.tidy h
  have hb : (r.record module key).Bare := ok.record_bare
  refine ⟨ok.put ht ⟨?_, ?_⟩, Grows.put fun b hf => ?_, put_defs r a⟩
  · rw [hab]; exact hb.unbound
  · rw [hlinked]; exact hb.unlinked
  · rw [hkey] at hf
    rw [record_of_find? hf] at hab
    exact slots_prefix hab.symm

/-- So does registering a declaration, which then stands in a slot. -/
theorem Clean.registerDeclaration (ok : r.Clean) {spec : AbilitySpec} {slot : Ability}
    (h : r.registerDeclaration module key spec = .ok (r', slot)) :
    r'.Clean ∧ r.Grows r' ∧ r'.defs = r.defs ∧ r'.Declares key spec := by
  have ht := ok.tidy.registerDeclaration h
  obtain ⟨a, rfl, hkey, hlinked, hslot, hsig, habs, hab⟩ := registerDeclaration_eq ok.tidy h
  have hb : (r.record module key).Bare := ok.record_bare
  refine ⟨ok.put ht ?_, Grows.put fun b hf => ?_, put_defs r a, slot, ?_, hsig, habs⟩
  · rcases hab with hab | ⟨-, -, -, hbound, hab⟩
    · exact ⟨by rw [hab]; exact hb.unbound, by rw [hlinked]; exact hb.unlinked⟩
    · refine ⟨fun s hs => ?_, by rw [hlinked]; exact hb.unlinked⟩
      rw [hab] at hs
      rcases List.mem_append.1 hs with hs | hs
      · exact hb.unbound s hs
      · rw [List.mem_singleton.1 hs]; exact hbound
  · rw [hkey] at hf
    rw [record_of_find? hf] at hab
    rcases hab with hab | ⟨-, -, -, -, hab⟩
    · exact slots_prefix hab.symm
    · rw [hab]; exact List.prefix_append _ _
  · unfold slotAt?
    have : (⟨key.kind, key.name, spec.name⟩ : Path).key = key := rfl
    rw [this, find?_put, if_pos hkey.symm]
    exact hslot

/-- So does registering a definition, which only goes to the definitions. -/
theorem Clean.registerDefinition (ok : r.Clean) {path : Path} {body : Option Body}
    {origin : Option Origin} (h : r.registerDefinition module path body origin = .ok r') :
    r'.Clean ∧ r.Grows r' := by
  have ht := ok.tidy.registerDefinition h
  obtain ⟨b, rfl, ⟨old, -, -, -, rfl⟩ | ⟨-, rfl⟩⟩ := registerDefinition_eq h
  · exact ⟨ok, Grows.refl r'⟩
  · exact ⟨⟨ht, ok.bare, ok.frozen⟩, fun key a ha => ⟨a, ha, List.prefix_refl _⟩⟩

/-- A definition whose origin is new is appended. -/
theorem registerDefinition_new {path : Path} {body : Option Body} {o : Origin}
    (hnew : ∀ d ∈ r.defs, d.origin ≠ some o)
    (h : r.registerDefinition module path body (some o) = .ok r') :
    r'.definitions = r.definitions ++ [(path, body, module)] ∧
      ∀ d ∈ r'.defs, d ∈ r.defs ∨ d.origin = some o := by
  obtain ⟨b, rfl, ⟨old, hold, horigin, -⟩ | ⟨-, rfl⟩⟩ := registerDefinition_eq h
  · exact absurd horigin (hnew old hold)
  · refine ⟨by simp [definitions], fun d hd => ?_⟩
    rcases List.mem_append.1 hd with hd | hd
    · exact Or.inl hd
    · exact Or.inr (by rw [List.mem_singleton.1 hd])

/-! ## Origins -/

/-- What comes next has an origin that no definition has. -/
theorem Marked.ne {element ability : Nat} (h : r.Marked m.name element ability) :
    ∀ d ∈ r.defs, d.origin ≠ some ⟨m.name, m.stamp, element, ability⟩ := by
  intro d hd ho
  have := h d hd _ ho rfl
  simp at this

theorem Marked.mono {e e' i i' : Nat} (h : r.Marked name e i) (hi : e < e' ∨ e = e' ∧ i ≤ i') :
    r.Marked name e' i' := by
  intro d hd o ho hl
  have := h d hd o ho hl
  omega

theorem Marked.of_defs {e i : Nat} (h : r.Marked name e i) (hd : r'.defs = r.defs) :
    r'.Marked name e i := by
  unfold Marked
  rw [hd]
  exact h

/-! ## Collecting -/

/-- What was collected of a module: its definitions `ds` were appended, and no origin of
another module is new. -/
structure Collected (m : Module) (ds : List (Path × Option Body)) (r r' : Registry) : Prop where
  clean : r'.Clean
  grows : r.Grows r'
  definitions : r'.definitions = r.definitions ++ ds.map fun p => (p.1, p.2, m.name)
  others : ∀ {name : String}, name ≠ m.name → r.Marked name 0 0 → r'.Marked name 0 0

variable {r'' : Registry} {ds ds' : List (Path × Option Body)}

theorem Collected.refl (ok : r.Clean) : Collected m [] r r :=
  ⟨ok, Grows.refl r, by simp, fun _ h => h⟩

/-- What is collected in two steps. -/
theorem Collected.trans (h : Collected m ds r r') (h' : Collected m ds' r' r'') :
    Collected m (ds ++ ds') r r'' := by
  refine ⟨h'.clean, h.grows.trans h'.grows, ?_, fun hn hm => h'.others hn (h.others hn hm)⟩
  rw [h'.definitions, h.definitions, List.map_append, List.append_assoc]

theorem Collected.of_defs (hc : r'.Clean) (hg : r.Grows r') (hd : r'.defs = r.defs) :
    Collected m [] r r' :=
  ⟨hc, hg, by simp [Registry.definitions, hd], fun _ h => h.of_defs hd⟩

/-- A definition is appended, under an origin that is taken from then on. -/
theorem collected_definition (ok : r.Clean) {path : Path} {body : Option Body}
    {element ability : Nat} (hm : r.Marked m.name element ability)
    (h : r.registerDefinition m.name path body (some ⟨m.name, m.stamp, element, ability⟩) =
      .ok r') :
    Collected m [(path, body)] r r' ∧ r'.Marked m.name element (ability + 1) := by
  obtain ⟨hc, hg⟩ := ok.registerDefinition h
  obtain ⟨hdefs, hnew⟩ := registerDefinition_new hm.ne h
  refine ⟨⟨hc, hg, hdefs, fun hn hm' d hd o ho hl => ?_⟩, fun d hd o ho hl => ?_⟩
  · rcases hnew d hd with hd | hd
    · exact hm' d hd o ho hl
    · rw [hd] at ho
      cases ho
      exact absurd hl.symm hn
  · rcases hnew d hd with hd | hd
    · have := hm d hd o ho hl
      omega
    · rw [hd] at ho
      cases ho
      exact Or.inr ⟨rfl, Nat.lt_succ_self _⟩

/-- **The slots of an architype** are registered, with the bodies given for them. -/
theorem collectAbilities_spec {element : Nat} {d : ArchDecl} (abs : List AbilityDecl) :
    ∀ {i : Nat} {r r' : Registry}, r.Clean → r.Marked m.name element (i + 1) →
      collectAbilities m element d i abs r = (r', []) →
        Collected m ((abs.filter (·.body.isSome)).map fun ab =>
          (⟨d.kind, d.name, ab.name⟩, ab.body)) r r' ∧
        r'.Marked m.name (element + 1) 0 ∧
        ∀ ab ∈ abs, r'.Declares ⟨d.kind, d.name⟩ ⟨ab.name, ab.signature, ab.isAbstract⟩ := by
  induction abs with
  | nil =>
    intro i r r' ok hm h
    cases h
    exact ⟨Collected.refl ok, hm.mono (by omega), by simp⟩
  | cons ab abs ih =>
    intro i r r' ok hm h
    unfold collectAbilities at h
    cases hd : r.registerDeclaration m.name ⟨d.kind, d.name⟩
        ⟨ab.name, ab.signature, ab.isAbstract⟩ with
    | error e => simp [hd] at h
    | ok p =>
      obtain ⟨r₁, slot⟩ := p
      obtain ⟨ok₁, hg₁, hd₁, hdecl⟩ := ok.registerDeclaration hd
      -- the slot is there, and so is its body if it has one
      have hbody : ∃ r₂, collectAbilities m element d (i + 1) abs r₂ = (r', []) ∧
          Collected m (([ab].filter (·.body.isSome)).map fun ab =>
            (⟨d.kind, d.name, ab.name⟩, ab.body)) r₁ r₂ ∧
          r₂.Marked m.name element (i + 2) := by
        cases hb : ab.body with
        | none =>
          refine ⟨r₁, by simpa [hd, hb, Prod.ext_iff] using h, ?_, (hm.of_defs hd₁).mono (by omega)⟩
          simpa [hb] using Collected.refl ok₁
        | some b =>
          cases hdef : r₁.registerDefinition m.name ⟨d.kind, d.name, ab.name⟩ (some b)
              (some ⟨m.name, m.stamp, element, i + 1⟩) with
          | error e => simp [hd, hb, hdef] at h
          | ok r₂ =>
            obtain ⟨hcol, hm₂⟩ := collected_definition ok₁ (hm.of_defs hd₁) hdef
            refine ⟨r₂, by simpa [hd, hb, hdef, Prod.ext_iff] using h, ?_, hm₂⟩
            simpa [hb] using hcol
      obtain ⟨r₂, hrest, hcol, hm₂⟩ := hbody
      obtain ⟨hcol', hm', hdecls⟩ := ih hcol.clean hm₂ hrest
      refine ⟨?_, hm', fun ab' hab => ?_⟩
      · have := (Collected.of_defs ok₁ hg₁ hd₁).trans (hcol.trans hcol')
        rwa [List.nil_append, ← List.map_append, ← List.filter_append] at this
      · rcases List.mem_cons.1 hab with rfl | hab
        · exact hdecl.grows (hcol.grows.trans hcol'.grows)
        · exact hdecls ab' hab

/-- **An element** is registered, with what it declares and defines. -/
theorem collectElement_spec {element : Nat} {el : Element} (ok : r.Clean)
    (hm : r.Marked m.name element 0) (h : collectElement m element r el = (r', [])) :
    Collected m el.definitions r r' ∧ r'.Marked m.name (element + 1) 0 ∧
      ∀ d, el = .arch d → ∀ ab ∈ d.abilities,
        r'.Declares ⟨d.kind, d.name⟩ ⟨ab.name, ab.signature, ab.isAbstract⟩ := by
  cases el with
  | arch d =>
    simp only [collectElement] at h
    split at h
    · cases h
    · rename_i r₁ a ha
      obtain ⟨ok₁, hg₁, hd₁⟩ := ok.registerArchitype ha
      have hm₁ : r₁.Marked m.name element 1 := (hm.of_defs hd₁).mono (by omega)
      obtain ⟨hcol, hm', hdecls⟩ := collectAbilities_spec d.abilities ok₁ hm₁ h
      refine ⟨(Collected.of_defs ok₁ hg₁ hd₁).trans hcol, hm', ?_⟩
      intro d' hd'
      cases hd'
      exact hdecls
  | impl d =>
    simp only [collectElement] at h
    split at h
    · rename_i r₁ hd
      cases h
      obtain ⟨hcol, hm'⟩ := collected_definition ok hm hd
      exact ⟨hcol, hm'.mono (by omega), fun d hd => by cases hd⟩
    · cases h
  | _ =>
    cases h
    exact ⟨Collected.refl ok, hm.mono (by omega), fun d hd => by cases hd⟩

/-- **The elements of a module** are registered one after the other. -/
theorem collectElements_spec (els : List Element) :
    ∀ {element : Nat} {r r' : Registry}, r.Clean → r.Marked m.name element 0 →
      collectElements m element els r = (r', []) →
        Collected m (els.flatMap Element.definitions) r r' ∧
        ∀ d, Element.arch d ∈ els → ∀ ab ∈ d.abilities,
          r'.Declares ⟨d.kind, d.name⟩ ⟨ab.name, ab.signature, ab.isAbstract⟩ := by
  induction els with
  | nil =>
    intro element r r' ok _ h
    cases h
    exact ⟨Collected.refl ok, fun d hd => by cases hd⟩
  | cons el els ih =>
    intro element r r' ok hm h
    unfold collectElements at h
    cases hel : collectElement m element r el with
    | mk r₁ es =>
      simp only [hel, Prod.ext_iff, List.append_eq_nil_iff] at h
      obtain ⟨hr, rfl, hes⟩ := h
      obtain ⟨hcol, hm₁, hdecl⟩ := collectElement_spec ok hm hel
      obtain ⟨hcol', hdecls⟩ := ih hcol.clean hm₁ (Prod.ext hr hes)
      refine ⟨hcol.trans hcol', fun d hd ab hab => ?_⟩
      rcases List.mem_cons.1 hd with hd | hd
      · exact (hdecl d hd.symm ab hab).grows hcol'.grows
      · exact hdecls d hd ab hab

/-- **Collecting modules** without an error registers all they declare and define. -/
theorem collect_spec (mods : List Module) :
    ∀ {r r' : Registry}, r.Clean → (mods.map Module.name).Nodup →
      (∀ m ∈ mods, r.Marked m.name 0 0) → collect mods r = (r', []) →
        r'.Clean ∧ r.Grows r' ∧
        r'.definitions = r.definitions ++
          mods.flatMap (fun m => m.definitions.map fun p => (p.1, p.2, m.name)) ∧
        ∀ m ∈ mods, ∀ d ∈ m.architypes, ∀ ab ∈ d.abilities,
          r'.Declares ⟨d.kind, d.name⟩ ⟨ab.name, ab.signature, ab.isAbstract⟩ := by
  induction mods with
  | nil =>
    intro r r' ok _ _ h
    cases h
    exact ⟨ok, Grows.refl r, by simp, fun m hm => by cases hm⟩
  | cons m mods ih =>
    intro r r' ok hnd hm h
    unfold collect at h
    cases hel : collectElements m 0 m.elements r with
    | mk r₁ es =>
      simp only [hel, Prod.ext_iff, List.append_eq_nil_iff] at h
      obtain ⟨hr, rfl, hes⟩ := h
      rw [List.map_cons, List.nodup_cons] at hnd
      obtain ⟨hcol, hdecl⟩ := collectElements_spec m.elements ok (hm m List.mem_cons_self) hel
      -- names are distinct, so the origins of the other modules are still free
      have hmarked : ∀ m' ∈ mods, r₁.Marked m'.name 0 0 := fun m' hm' =>
        hcol.others (fun he => hnd.1 (List.mem_map.2 ⟨m', hm', he⟩))
          (hm m' (List.mem_cons_of_mem m hm'))
      obtain ⟨ok', hg', hdefs, hdecls⟩ := ih hcol.clean hnd.2 hmarked (Prod.ext hr hes)
      refine ⟨ok', hcol.grows.trans hg', ?_, fun m' hm' d hd ab hab => ?_⟩
      · rw [hdefs, hcol.definitions, List.append_assoc]
        rfl
      · rcases List.mem_cons.1 hm' with rfl | hm'
        · have hd : Element.arch d ∈ m'.elements := by
            obtain ⟨el, hel, hd⟩ := List.mem_filterMap.1 hd
            cases el <;> cases hd
            exact hel
          exact (hdecl d hd ab hab).grows hg'
        · exact hdecls m' hm' d hd ab hab

/-! ## Collecting with errors -/

/-- A property that no registration loses. -/
structure Kept (P : Registry → Prop) : Prop where
  architype : ∀ {r r' module key spec a}, P r →
    registerArchitype r module key spec = .ok (r', a) → P r'
  declaration : ∀ {r r' module key spec slot}, P r →
    registerDeclaration r module key spec = .ok (r', slot) → P r'
  definition : ∀ {r r' module path body origin}, P r →
    registerDefinition r module path body origin = .ok r' → P r'

variable {P : Registry → Prop}

theorem Kept.collectAbilities (k : Kept P) {element : Nat} {d : ArchDecl}
    (abs : List AbilityDecl) : ∀ {i : Nat} {r : Registry}, P r →
      P (collectAbilities m element d i abs r).1 := by
  induction abs with
  | nil => exact fun h => h
  | cons ab abs ih =>
    intro i r h
    unfold Registry.collectAbilities
    refine ih ?_
    cases hd : r.registerDeclaration m.name ⟨d.kind, d.name⟩
        ⟨ab.name, ab.signature, ab.isAbstract⟩ with
    | error e => exact h
    | ok p =>
      have h₁ := k.declaration h hd
      cases hb : ab.body with
      | none => exact h₁
      | some b =>
        simp only
        split
        · rename_i hreg
          exact k.definition h₁ hreg
        · exact h₁

theorem Kept.collectElement (k : Kept P) {element : Nat} (el : Element) (h : P r) :
    P (collectElement m element r el).1 := by
  cases el with
  | arch d =>
    simp only [Registry.collectElement]
    split
    · exact h
    · rename_i ha
      exact k.collectAbilities _ (k.architype h ha)
  | impl d =>
    simp only [Registry.collectElement]
    split
    · rename_i hd
      exact k.definition h hd
    · exact h
  | _ => exact h

theorem Kept.collectElements (k : Kept P) (els : List Element) :
    ∀ {element : Nat} {r : Registry}, P r → P (collectElements m element els r).1 := by
  induction els with
  | nil => exact fun h => h
  | cons el els ih => exact fun h => ih (k.collectElement el h)

/-- **What registrations keep, collecting keeps**, also when it reports errors. -/
theorem Kept.collect (k : Kept P) (mods : List Module) :
    ∀ {r : Registry}, P r → P (collect mods r).1 := by
  induction mods with
  | nil => exact fun h => h
  | cons m mods ih => exact fun h => ih (k.collectElements m.elements h)

theorem kept_clean : Kept Clean where
  architype := fun h ha => (h.registerArchitype ha).1
  declaration := fun h hd => (h.registerDeclaration hd).1
  definition := fun h hd => (h.registerDefinition hd).1

/-- **Collecting keeps a registry clean**, also when it reports errors. -/
theorem collect_clean (mods : List Module) (ok : r.Clean) : (collect mods r).1.Clean :=
  kept_clean.collect mods ok

end Registry

end GraphWalk
