import GraphWalk.Proofs.Registry.Link

/-!
# Registering once more

A registration that was accepted is accepted again later, when the registry has grown and is
frozen (`Into`), and changes nothing: slots and definitions are found as they were given
(`registerDeclaration_again`, `registerDefinition_again`). For architypes there is one
condition, that the fields of one name in the declaration are of one type (`Uniform`): fields
are compared with those registered before, and not with each other, so the first time the
declaration is accepted without it, and the second time it is not
(`registerArchitype_again`).
-/

namespace GraphWalk

/-- Fields of one name are of one type. -/
def Uniform (fs : List FieldDef) : Prop :=
  ∀ f ∈ fs, ∀ f' ∈ fs, f.name = f'.name → f.type = f'.type

instance (fs : List FieldDef) : Decidable (Uniform fs) :=
  inferInstanceAs (Decidable (∀ f ∈ fs, ∀ f' ∈ fs, f.name = f'.name → f.type = f'.type))

namespace Architype

/-- From `a` to `a'` nothing that was declared is lost or changed. -/
structure Into (a a' : Architype) : Prop where
  bases : a.baseNames = [] ∨ a'.baseNames = a.baseNames
  fields : a.fields <+: a'.fields
  directed : a.directed = true → a'.directed = true
  slots : ∀ name s, a.ability? name = some s → ∃ s', a'.ability? name = some s' ∧
    s'.signature = s.signature ∧ s'.isAbstract = s.isAbstract

/-- Each field of `fs` is there, with a type that `fs` gives it. -/
def Remembers (a : Architype) (fs : List FieldDef) : Prop :=
  ∀ f ∈ fs, ∃ old, a.field? f.name = some old ∧ ∃ f' ∈ fs, f'.name = f.name ∧ old.type = f'.type

/-- Each field of `fs` is there with its type. -/
def Has (a : Architype) (fs : List FieldDef) : Prop :=
  ∀ f ∈ fs, ∃ old, a.field? f.name = some old ∧ old.type = f.type

variable {a a' a'' : Architype} {fs added : List FieldDef}

theorem Into.refl (a : Architype) : a.Into a :=
  ⟨Or.inr rfl, List.prefix_refl _, id, fun _ s hs => ⟨s, hs, rfl, rfl⟩⟩

theorem Into.trans (h : a.Into a') (h' : a'.Into a'') : a.Into a'' := by
  refine ⟨?_, h.fields.trans h'.fields, h'.directed ∘ h.directed, fun name s hs => ?_⟩
  · rcases h.bases with hnil | heq
    · exact Or.inl hnil
    · rcases h'.bases with hnil | heq'
      · exact Or.inl (heq.symm.trans hnil)
      · exact Or.inr (heq'.trans heq)
  · obtain ⟨s', hs', hsig, habs⟩ := h.slots name s hs
    obtain ⟨s'', hs'', hsig', habs'⟩ := h'.slots name s' hs'
    exact ⟨s'', hs'', hsig'.trans hsig, habs'.trans habs⟩

theorem field?_of_prefix {name : String} {f : FieldDef} (h : a.fields <+: a'.fields)
    (hf : a.field? name = some f) : a'.field? name = some f := by
  obtain ⟨more, hmore⟩ := h
  unfold field? at hf ⊢
  rw [← hmore, List.find?_append, hf]
  rfl

theorem Remembers.into (hm : a.Remembers fs) (h : a.Into a') : a'.Remembers fs := by
  intro f hf
  obtain ⟨old, hold, hgiven⟩ := hm f hf
  exact ⟨old, field?_of_prefix h.fields hold, hgiven⟩

/-- A record that remembers fields has all of them if they are uniform. -/
theorem Remembers.has_iff (hm : a.Remembers fs) : a.Has fs ↔ Uniform fs := by
  constructor
  · intro hhas f hf f' hf' hname
    obtain ⟨old, hold, htype⟩ := hhas f hf
    obtain ⟨old', hold', htype'⟩ := hhas f' hf'
    rw [hname, hold'] at hold
    cases hold
    exact htype.symm.trans htype'
  · intro hu f hf
    obtain ⟨old, hold, f', hf', hname, htype⟩ := hm f hf
    exact ⟨old, hold, htype.trans (hu f' hf' f hf hname)⟩

/-- What was declared of a record: all that linking leaves alone. -/
def declared (a : Architype) : Architype :=
  { a with bases := [], linkedFields := [], linkedAbilities := [], ancestry := [] }

theorem Into.of_declared (h : a'.declared = a.declared) : a.Into a' := by
  have hb : a'.baseNames = a.baseNames := congrArg (·.baseNames) h
  have hf : a'.fields = a.fields := congrArg (·.fields) h
  have hd : a'.directed = a.directed := congrArg (·.directed) h
  have hs : a'.abilities = a.abilities := congrArg (·.abilities) h
  refine ⟨Or.inr hb, ⟨[], by rw [hf, List.append_nil]⟩, fun h => hd.trans h, fun name s hm => ?_⟩
  unfold ability? at hm ⊢
  rw [hs]
  exact ⟨s, hm, rfl, rfl⟩

/-! ## New fields -/

/-- The fields that are new, if none is at odds with the record. -/
theorem newFields_ok (fs : List FieldDef) : ∀ {added : List FieldDef},
    Registry.newFields a fs = .ok added →
      (∀ f ∈ added, f ∈ fs) ∧
      ∀ f ∈ fs, (∃ old, a.field? f.name = some old ∧ old.type = f.type) ∨
        a.field? f.name = none ∧ f ∈ added := by
  induction fs with
  | nil =>
    intro added h
    cases h
    exact ⟨fun f hf => hf, fun f hf => by cases hf⟩
  | cons f fs ih =>
    intro added h
    unfold Registry.newFields at h
    cases hold : a.field? f.name with
    | none =>
      rw [hold] at h
      cases hrest : Registry.newFields a fs with
      | error e => rw [hrest] at h; cases h
      | ok rest =>
        rw [hrest] at h
        cases h
        obtain ⟨hin, hall⟩ := ih hrest
        refine ⟨fun f' hf' => ?_, fun f' hf' => ?_⟩
        · rcases List.mem_cons.1 hf' with rfl | hf'
          · exact List.mem_cons_self
          · exact List.mem_cons_of_mem f (hin f' hf')
        · rcases List.mem_cons.1 hf' with rfl | hf'
          · exact Or.inr ⟨hold, List.mem_cons_self⟩
          · exact (hall f' hf').imp_right fun ⟨hnone, hm⟩ => ⟨hnone, List.mem_cons_of_mem f hm⟩
    | some old =>
      rw [hold] at h
      simp only at h
      split at h
      · rename_i htype
        obtain ⟨hin, hall⟩ := ih h
        refine ⟨fun f' hf' => List.mem_cons_of_mem f (hin f' hf'), fun f' hf' => ?_⟩
        rcases List.mem_cons.1 hf' with rfl | hf'
        · exact Or.inl ⟨old, hold, by simpa using htype⟩
        · exact hall f' hf'
      · cases h

/-- Nothing is new if the record has all fields. -/
theorem Has.newFields (h : a.Has fs) : Registry.newFields a fs = .ok [] := by
  induction fs with
  | nil => rfl
  | cons f fs ih =>
    obtain ⟨old, hold, htype⟩ := h f List.mem_cons_self
    unfold Registry.newFields
    rw [hold]
    simp only
    rw [if_pos (by simpa using htype)]
    exact ih fun f' hf' => h f' (List.mem_cons_of_mem f hf')

/-- A record that was extended by what is new remembers all that was given. -/
theorem remembers_of_newFields (h : Registry.newFields a fs = .ok added)
    (hf : a'.fields = a.fields ++ added) : a'.Remembers fs := by
  obtain ⟨hin, hall⟩ := newFields_ok fs h
  intro f hm
  rcases hall f hm with ⟨old, hold, htype⟩ | ⟨hnone, hadded⟩
  · exact ⟨old, field?_of_prefix ⟨added, hf.symm⟩ hold, f, hm, rfl, htype⟩
  · -- the first of the new fields of this name is the one that is found
    have hsome : (added.find? (·.name = f.name)).isSome = true := by
      rw [List.find?_isSome]
      exact ⟨f, hadded, by simp⟩
    obtain ⟨old, hold⟩ := Option.isSome_iff_exists.1 hsome
    have hname : old.name = f.name := by simpa using List.find?_some hold
    refine ⟨old, ?_, old, hin old (List.mem_of_find?_eq_some hold), hname, rfl⟩
    unfold field? at hnone ⊢
    rw [hf, List.find?_append, hnone, Option.none_or, hold]

end Architype

namespace Registry

/-- From `r` to `r'` nothing that was declared or defined is lost or changed. -/
structure Into (r r' : Registry) : Prop where
  records : ∀ key a, r.find? key = some a → ∃ a', r'.find? key = some a' ∧ a.Into a'
  definitions : ∀ path d, r.definition? path = some d →
    ∃ d', r'.definition? path = some d' ∧ d'.origin = d.origin

variable {r r' r'' R : Registry} {a : Architype} {key : ArchKey} {module : String}

theorem Into.refl (r : Registry) : r.Into r :=
  ⟨fun _ a ha => ⟨a, ha, Architype.Into.refl a⟩, fun _ d hd => ⟨d, hd, rfl⟩⟩

theorem Into.trans (h : r.Into r') (h' : r'.Into r'') : r.Into r'' := by
  refine ⟨fun key a ha => ?_, fun path d hd => ?_⟩
  · obtain ⟨a', ha', hinto⟩ := h.records key a ha
    obtain ⟨a'', ha'', hinto'⟩ := h'.records key a' ha'
    exact ⟨a'', ha'', hinto.trans hinto'⟩
  · obtain ⟨d', hd', ho⟩ := h.definitions path d hd
    obtain ⟨d'', hd'', ho'⟩ := h'.definitions path d' hd'
    exact ⟨d'', hd'', ho'.trans ho⟩

theorem Into.replace (h : ∀ b, r.find? a.key = some b → b.Into a) : r.Into (r.replace a) := by
  refine ⟨fun key b hb => ?_, fun path d hd => ⟨d, hd, rfl⟩⟩
  rw [find?_replace]
  split
  · rename_i hk
    subst hk
    rw [hb]
    exact ⟨a, rfl, h b hb⟩
  · exact ⟨b, hb, Architype.Into.refl b⟩

theorem Into.put (h : ∀ b, r.find? a.key = some b → b.Into a) : r.Into (r.put a) := by
  unfold Registry.put
  split
  · rename_i hn
    refine ⟨fun key b hb => ⟨b, ?_, Architype.Into.refl b⟩, fun path d hd => ⟨d, hd, rfl⟩⟩
    unfold Registry.find? at hb ⊢
    rw [List.find?_append, hb]
    rfl
  · exact Into.replace h

/-! ## Architypes -/

/-- What a record holds after a declaration of it was accepted. -/
structure Takes (r : Registry) (module : String) (key : ArchKey) (spec : ArchSpec)
    (a : Architype) : Prop where
  valid : key.kind.isValid = true
  grown : (r.record module key).Into a
  bases : spec.bases = [] ∨ a.baseNames = spec.bases
  fields : a.Remembers spec.fields
  directed : spec.directed = true → a.directed = true

/-- **A declaration that is accepted** is taken in, and no other is lost. -/
theorem registerArchitype_takes {spec : ArchSpec}
    (h : r.registerArchitype module key spec = .ok (r', a)) : r.Takes module key spec a := by
  unfold registerArchitype at h
  obtain ⟨hvalid, h⟩ := of_ite_error h
  obtain ⟨-, h⟩ := of_ite_error h
  obtain ⟨hbases, h⟩ := of_ite_error h
  have hvalid : key.kind.isValid = true := by simpa using hvalid
  -- declared bases are those of the record, if it has any
  have hbases : spec.bases = [] ∨ (r.record module key).baseNames = [] ∨
      (r.record module key).baseNames = spec.bases := by
    by_contra hne
    simp only [not_or] at hne
    refine hbases ?_
    simp [hne.1, hne.2.1, hne.2.2]
  cases hf : newFields (r.record module key) spec.fields with
  | error p => rw [hf] at h; cases h
  | ok added =>
    rw [hf] at h
    simp only at h
    split at h
    · -- nothing is new, so the record says all of it already
      rename_i hsame
      cases h
      simp only [Bool.not_eq_true', Bool.or_eq_false_iff, Bool.and_eq_false_iff,
        Bool.not_eq_false', List.isEmpty_iff] at hsame
      obtain ⟨⟨⟨-, hkept⟩, rfl⟩, hdirected⟩ := hsame
      refine ⟨hvalid, Architype.Into.refl _, ?_, ?_, fun hd => ?_⟩
      · rcases hbases with hnil | hnil | heq
        · exact Or.inl hnil
        · rcases hkept with hb | hb
          · exact Or.inl hb
          · simp [hnil] at hb
        · exact Or.inr heq
      · exact Architype.remembers_of_newFields hf (List.append_nil _).symm
      · rcases hdirected with hn | hd'
        · rw [hd] at hn; cases hn
        · exact hd'
    · -- the record is extended by what is new
      obtain ⟨-, h⟩ := of_ite_error h
      cases h
      refine ⟨hvalid, ⟨?_, ⟨added, rfl⟩, fun hd => ?_, fun _ s hs => ⟨s, hs, rfl, rfl⟩⟩, ?_, ?_,
        fun hd => ?_⟩
      · by_cases hnil : (r.record module key).baseNames = []
        · exact Or.inl hnil
        · exact Or.inr (if_neg (by simpa using hnil))
      · simp [hd]
      · rcases hbases with hnil | hnil | heq
        · exact Or.inl hnil
        · exact Or.inr (if_pos (by simpa using hnil))
        · refine Or.inr ?_
          simp only [heq]
          split <;> rfl
      · exact Architype.remembers_of_newFields hf rfl
      · simp [hd]

theorem registerArchitype_into (ok : r.Tidy) {spec : ArchSpec}
    (h : r.registerArchitype module key spec = .ok (r', a)) : r.Into r' := by
  have ht := registerArchitype_takes h
  obtain ⟨rfl, hkey, -⟩ := registerArchitype_eq ok h
  refine Into.put fun b hb => ?_
  rw [hkey] at hb
  have hgrown := ht.grown
  rwa [record_of_find? hb] at hgrown

/-- **A frozen registry** accepts a declaration of a record that has all it says. -/
theorem registerArchitype_of_find? (module : String) (hf : R.frozen = true) {spec : ArchSpec}
    (hvalid : key.kind.isValid = true) (ha : R.find? key = some a)
    (hb : spec.bases = [] ∨ a.baseNames = spec.bases)
    (hd : spec.directed = true → a.directed = true) :
    (a.Has spec.fields → R.registerArchitype module key spec = .ok (R, a)) ∧
      (¬a.Has spec.fields → ∃ e, R.registerArchitype module key spec = .error e) := by
  have hbases : ¬((!spec.bases.isEmpty && !a.baseNames.isEmpty && a.baseNames != spec.bases) =
      true) := by
    rcases hb with hnil | heq
    · simp [hnil]
    · simp [heq]
  unfold registerArchitype
  simp only [record_of_find? ha, ha, hvalid, Option.isNone_some, Bool.not_true, Bool.false_and,
    Bool.false_eq_true, if_false, if_neg hbases, Bool.false_or]
  refine ⟨fun hhas => ?_, fun hhas => ?_⟩
  · rw [hhas.newFields]
    have hbnil : (!spec.bases.isEmpty && a.baseNames.isEmpty) = false := by
      rcases hb with hnil | heq
      · simp [hnil]
      · simp [heq]
    have hdir : (spec.directed && !a.directed) = false := by
      cases hs : spec.directed with
      | false => rfl
      | true => simp [hd hs]
    simp [hbnil, hdir]
  · cases hnew : newFields a spec.fields with
    | error p => exact ⟨_, rfl⟩
    | ok added =>
      -- a field that is new would change the record, which is refused
      have hne : added ≠ [] := by
        rintro rfl
        refine hhas fun f hm => ?_
        rcases (Architype.newFields_ok _ hnew).2 f hm with hold | ⟨-, hm⟩
        · exact hold
        · cases hm
      have hchanged : (!spec.bases.isEmpty && a.baseNames.isEmpty || !added.isEmpty ||
          spec.directed && !a.directed) = true := by
        simp [hne]
      simp [hchanged, hf]

/-- **A declaration of an architype** that was accepted is accepted once more exactly if its
fields are uniform. -/
theorem registerArchitype_again (ok : r.Tidy) {spec : ArchSpec}
    (h : r.registerArchitype module key spec = .ok (r', a)) (hf : R.frozen = true)
    (hi : r'.Into R) :
    (Uniform spec.fields → ∃ b, R.registerArchitype module key spec = .ok (R, b)) ∧
      (¬Uniform spec.fields → ∃ e, R.registerArchitype module key spec = .error e) := by
  have ht := registerArchitype_takes h
  obtain ⟨rfl, hkey, -⟩ := registerArchitype_eq ok h
  have ha : (r.put a).find? key = some a := by rw [find?_put, if_pos hkey.symm]
  obtain ⟨b, hb, hinto⟩ := hi.records key a ha
  -- bases that were taken in are not lost, and none are added to them
  have hbases : spec.bases = [] ∨ b.baseNames = spec.bases := by
    rcases ht.bases with hnil | heq
    · exact Or.inl hnil
    · rcases hinto.bases with hnil | heq'
      · exact Or.inl (heq.symm.trans hnil)
      · exact Or.inr (heq'.trans heq)
  obtain ⟨haccept, hrefuse⟩ := registerArchitype_of_find? module hf ht.valid hb hbases
    fun hd => hinto.directed (ht.directed hd)
  have hhas := (ht.fields.into hinto).has_iff
  exact ⟨fun hu => ⟨b, haccept (hhas.2 hu)⟩, fun hu => hrefuse fun h => hu (hhas.1 h)⟩

/-! ## Slots -/

theorem registerDeclaration_into (ok : r.Tidy) {spec : AbilitySpec} {slot : Ability}
    (h : r.registerDeclaration module key spec = .ok (r', slot)) :
    key.kind.isValid = true ∧ r.Into r' := by
  unfold registerDeclaration at h
  cases ha : r.registerArchitype module key ⟨[], [], false⟩ with
  | error e => rw [ha] at h; cases h
  | ok p =>
    obtain ⟨r₁, a⟩ := p
    have hvalid := (registerArchitype_takes ha).valid
    have hinto := registerArchitype_into ok ha
    obtain ⟨rfl, hkey, -⟩ := registerArchitype_eq ok ha
    rw [ha] at h
    simp only [bind, Except.bind] at h
    split at h
    · split at h
      · cases h
        exact ⟨hvalid, hinto⟩
      · cases h
    · rename_i hnone
      split at h
      · cases h
      · cases h
        have hfound : (r.put a).find? a.key = some a := by rw [find?_put, if_pos rfl]
        refine ⟨hvalid, hinto.trans (Into.replace fun b hb => ?_)⟩
        obtain rfl : a = b := Option.some.inj (hfound.symm.trans hb)
        -- the new slot comes behind those that are there
        refine ⟨Or.inr rfl, List.prefix_refl _, id, fun name s hs => ⟨s, ?_, rfl, rfl⟩⟩
        unfold Architype.ability? at hs ⊢
        rw [List.find?_append, hs]
        rfl

/-- **A declaration of a slot** that was accepted is accepted once more. -/
theorem registerDeclaration_again (ok : r.Tidy) {spec : AbilitySpec} {slot : Ability}
    (h : r.registerDeclaration module key spec = .ok (r', slot)) (hf : R.frozen = true)
    (hi : r'.Into R) : ∃ slot', R.registerDeclaration module key spec = .ok (R, slot') := by
  obtain ⟨hvalid, -⟩ := registerDeclaration_into ok h
  obtain ⟨a, rfl, hkey, -, hslot, hsig, habs, -⟩ := registerDeclaration_eq ok h
  have ha : (r.put a).find? key = some a := by rw [find?_put, if_pos hkey.symm]
  obtain ⟨b, hb, hinto⟩ := hi.records key a ha
  obtain ⟨s, hs, hsig', habs'⟩ := hinto.slots spec.name slot hslot
  have haccept : R.registerArchitype module key ⟨[], [], false⟩ = .ok (R, b) :=
    (registerArchitype_of_find? module hf hvalid hb (Or.inl rfl) fun hd => by cases hd).1
      fun f hm => by cases hm
  refine ⟨s, ?_⟩
  unfold registerDeclaration
  rw [haccept]
  simp only [bind, Except.bind, hs]
  rw [if_pos ⟨habs'.trans habs, by simp [hsig', hsig]⟩]
  rfl

/-! ## Definitions -/

/-- A definition that was accepted is found with its origin, and no other is lost. -/
theorem registerDefinition_into {path : Path} {body : Option Body} {o : Origin}
    (h : r.registerDefinition module path body (some o) = .ok r') :
    r.Into r' ∧ (∃ b, body = some b) ∧
      ∃ d, r'.definition? path = some d ∧ d.origin = some o := by
  unfold registerDefinition at h
  split at h
  · cases h
  · rename_i b
    split at h
    · rename_i old hold
      split at h
      · rename_i hsame
        cases h
        exact ⟨Into.refl r, ⟨b, rfl⟩, old, hold, hsame.2⟩
      · cases h
    · rename_i hnone
      split at h
      · cases h
      · cases h
        refine ⟨⟨fun key a ha => ⟨a, ha, Architype.Into.refl a⟩, fun p d hd => ⟨d, ?_, rfl⟩⟩,
          ⟨b, rfl⟩, ⟨path, module, b, some o⟩, ?_, rfl⟩
        · unfold definition? at hd ⊢
          rw [List.find?_append, hd]
          rfl
        · unfold definition? at hnone ⊢
          rw [List.find?_append, hnone]
          simp

/-- **A definition** that was accepted is accepted once more from the same origin. -/
theorem registerDefinition_again {path : Path} {body : Option Body} {o : Origin}
    (h : r.registerDefinition module path body (some o) = .ok r') (hi : r'.Into R) :
    R.registerDefinition module path body (some o) = .ok R := by
  obtain ⟨-, ⟨b, rfl⟩, d, hd, horigin⟩ := registerDefinition_into h
  obtain ⟨d', hd', horigin'⟩ := hi.definitions path d hd
  unfold registerDefinition
  rw [hd']
  exact if_pos ⟨rfl, horigin'.trans horigin⟩

/-! ## Linking -/

theorem find?_map_archs {f : Architype → Architype} (hf : ∀ a, (f a).key = a.key) (r : Registry)
    (key : ArchKey) :
    ({ r with archs := r.archs.map f } : Registry).find? key = (r.find? key).map f := by
  unfold Registry.find?
  rw [List.find?_map]
  congr 2
  funext a
  simp only [Function.comp, hf]

/-- What was declared of each record. -/
def declarations (r : Registry) : List Architype := r.archs.map Architype.declared

theorem declarations_keys (r : Registry) :
    r.declarations.map Architype.key = r.archs.map Architype.key := by
  unfold declarations
  rw [List.map_map]
  rfl

theorem mem_declarations (h : a ∈ r.archs) : a.declared ∈ r.declarations :=
  List.mem_map.2 ⟨a, h, rfl⟩

/-- **Linking** leaves alone what was declared. -/
theorem link_declarations (hk : (r.archs.map Architype.key).Nodup) :
    r.link.1.declarations = r.declarations := by
  refine link_induction (P := fun r' => r'.declarations = r.declarations)
    (fun {r₁ r₂ a bases} h ha h' _ => ?_) rfl ?_
  · refine Eq.trans ?_ h'
    unfold declarations Registry.replace
    simp only [List.map_map]
    apply List.map_congr_left
    intro b hb
    simp only [Function.comp]
    split
    · -- both records of this key were declared as the one in `r`
      rename_i hkey
      have hin : a.declared ∈ r.declarations := h ▸ mem_declarations ha
      have hin' : b.declared ∈ r.declarations := h' ▸ mem_declarations hb
      rw [← declarations_keys] at hk
      exact List.inj_on_of_nodup_map hk hin hin' hkey.symm
    · rfl
  · unfold declarations
    rw [List.map_map]
    rfl

theorem find?_declarations (r : Registry) (key : ArchKey) :
    r.declarations.find? (·.key = key) = (r.find? key).map Architype.declared :=
  find?_map_archs (f := Architype.declared) (fun _ => rfl) r key

theorem link_into (hk : (r.archs.map Architype.key).Nodup) (hd : r.link.1.defs = r.defs) :
    r.Into r.link.1 := by
  refine ⟨fun key a ha => ?_, fun path d hm => ⟨d, ?_, rfl⟩⟩
  · have hfind := find?_declarations r.link.1 key
    rw [link_declarations hk, find?_declarations, ha] at hfind
    obtain ⟨a', ha', hdeclared⟩ := Option.map_eq_some_iff.1 hfind.symm
    exact ⟨a', ha', Architype.Into.of_declared hdeclared⟩
  · unfold definition? at hm ⊢
    rw [hd]
    exact hm

end Registry

end GraphWalk
