import GraphWalk.Proofs.Registry.Frozen
import GraphWalk.Proofs.Registry.Hierarchy

/-!
# Registering in place

A registry can be changed in place, one part after the other: a new record is entered before
anything is compared with it, and a slot is looked for in a record that was entered for it.
`architypeInPlace` and `declarationInPlace` do so, and what they have done by the time they fail
stays.

* `architypeInPlace_eq`, `declarationInPlace_eq`: it makes no difference. What is entered for a
  declaration is new, and nothing that is new is refused afterwards, so a call that fails has
  changed nothing yet.
* `perform_valid`: records are of kinds that exist, whatever calls are made.

Main result: `atomic_of_calls`. **A call that fails changes nothing, and no call changes a frozen
registry**, which still accepts all that it holds.
-/

namespace GraphWalk

namespace Registry

variable {r r' : Registry} {module : String} {key : ArchKey} {a : Architype}

/-! ## Calls in place -/

/-- Enters a record if there is none, and extends it. -/
def architypeInPlace (r : Registry) (module : String) (key : ArchKey) (spec : ArchSpec) :
    Registry × Except RegistryError Architype :=
  let fault := fun (cause : RegistryCause) (detail : String) =>
    Except.error (RegistryError.issue cause (.arch key) module detail)
  if !key.kind.isValid then (r, .error (.invalidKind key.name))
  else
    let isNew := (r.find? key).isNone
    if isNew && r.frozen then (r, fault .frozen "")
    else
      let r := if isNew then { r with archs := r.archs ++ [.new module key] } else r
      let a := r.record module key
      if !spec.bases.isEmpty && !a.baseNames.isEmpty && a.baseNames != spec.bases then
        (r, fault .duplicateDeclaration
          ("bases " ++ bracketed spec.bases ++ " conflict with " ++ bracketed a.baseNames))
      else match newFields a spec.fields with
        | .error (f, old) =>
          (r, fault .duplicateDeclaration
            ("field " ++ Text.quote f.name ++ " redeclared as " ++ f.type.friendlyName ++ ", was "
              ++ old.type.friendlyName))
        | .ok added =>
          let changed := isNew || (!spec.bases.isEmpty && a.baseNames.isEmpty)
            || !added.isEmpty || (spec.directed && !a.directed)
          if !changed then (r, .ok a)
          else if r.frozen then (r, fault .frozen "")
          else
            let a' := { a with
              baseNames := if a.baseNames.isEmpty then spec.bases else a.baseNames
              module := if a.module = "" then module else a.module
              fields := a.fields ++ added
              directed := a.directed || spec.directed }
            (r.replace a', .ok a')

/-- Enters the record that a slot is for, and then the slot. -/
def declarationInPlace (r : Registry) (module : String) (key : ArchKey) (spec : AbilitySpec) :
    Registry × Except RegistryError Ability :=
  match r.architypeInPlace module key ⟨[], [], false⟩ with
  | (r, .error e) => (r, .error e)
  | (r, .ok a) =>
    let path : Path := ⟨key.kind, key.name, spec.name⟩
    match a.ability? spec.name with
    | some old =>
      if old.isAbstract = spec.isAbstract ∧ old.signature == spec.signature then (r, .ok old)
      else (r, .error (.issue .duplicateDeclaration (.path path) module
        ("signature differs from the declaration in module " ++ Text.quote old.declModule)))
    | none =>
      if r.frozen then (r, .error (.issue .frozen (.path path) module ""))
      else
        let slot : Ability :=
          { name := spec.name, signature := spec.signature, isAbstract := spec.isAbstract,
            bound := none, declModule := module, order := a.abilities.length, owner := key }
        (r.replace { a with abilities := a.abilities ++ [slot] }, .ok slot)

/-- What a registration comes to that changes nothing if it fails. -/
def settle {α : Type} (r : Registry) :
    Except RegistryError (Registry × α) → Registry × Except RegistryError α
  | .ok (r', x) => (r', .ok x)
  | .error e => (r, .error e)

/-! ## It makes no difference -/

/-- A new record takes all fields. -/
theorem newFields_new (module : String) (key : ArchKey) (fs : List FieldDef) :
    newFields (.new module key) fs = .ok fs := by
  induction fs with
  | nil => rfl
  | cons f fs ih =>
    unfold newFields
    have hnone : (Architype.new module key).field? f.name = none := rfl
    rw [hnone, ih]
    rfl

/-- Extending a record that was just entered is entering it extended. -/
theorem replace_entered (hn : r.find? key = none) {b : Architype} (ha : a.key = key)
    (hb : b.key = key) :
    ({ r with archs := r.archs ++ [a] } : Registry).replace b =
      { r with archs := r.archs ++ [b] } := by
  have hput : ∀ {c : Architype}, c.key = key → r.put c = { r with archs := r.archs ++ [c] } := by
    intro c hc
    rw [put_of_key hc, hn]
    rfl
  rw [← hput ha, put_put (hb.trans ha.symm), hput hb]

/-- **Entering a record at once** makes no difference: a new record is not refused. -/
theorem architypeInPlace_eq (r : Registry) (module : String) (key : ArchKey) (spec : ArchSpec) :
    r.architypeInPlace module key spec = r.settle (r.registerArchitype module key spec) := by
  unfold architypeInPlace registerArchitype
  simp only
  by_cases hvalid : (!key.kind.isValid) = true
  · rw [if_pos hvalid, if_pos hvalid]
    rfl
  · rw [if_neg hvalid, if_neg hvalid]
    cases hfind : r.find? key with
    | some a =>
      -- the record that is there is extended at the end or not at all
      simp only [Option.isNone_some, Bool.false_and, Bool.false_eq_true, if_false]
      split
      · rfl
      · cases newFields (r.record module key) spec.fields with
        | error p => rfl
        | ok added =>
          simp only
          split
          · rfl
          · split <;> rfl
    | none =>
      have hrecord : r.record module key = .new module key := by
        unfold record
        rw [hfind]
        rfl
      -- the new record is entered first, and then found and replaced
      have hentered : ({ r with archs := r.archs ++ [.new module key] } : Registry).record module
          key = .new module key :=
        record_of_find? ((find?_append hfind key).trans (if_pos rfl))
      have hextended : ∀ {b : Architype}, b.key = key →
          ({ r with archs := r.archs ++ [.new module key] } : Registry).replace b =
            { r with archs := r.archs ++ [b] } := fun hb => replace_entered hfind rfl hb
      have hfrozen : ({ r with archs := r.archs ++ [.new module key] } : Registry).frozen =
        r.frozen := rfl
      generalize ({ r with archs := r.archs ++ [.new module key] } : Registry) = entered
        at hentered hextended hfrozen ⊢
      by_cases hf : r.frozen = true
      · simp only [hf, Option.isNone_none, Bool.and_true, if_true]
        rfl
      · rw [Bool.not_eq_true] at hf
        simp only [hf, hfrozen, hrecord, hentered, newFields_new, Option.isNone_none,
          Bool.and_false, Bool.false_eq_true, if_false, if_true, Bool.true_or, Bool.not_true]
        have hbases : ¬((!spec.bases.isEmpty && !(Architype.new module key).baseNames.isEmpty &&
            (Architype.new module key).baseNames != spec.bases) = true) := by
          simp [Architype.new]
        rw [if_neg hbases, if_neg hbases, hextended rfl, hf]
        rfl

/-- The record that a slot is for is there, or it is entered without any slots. -/
theorem registerArchitype_nothing
    (h : r.registerArchitype module key ⟨[], [], false⟩ = .ok (r', a)) :
    r' = r ∨ a.abilities = [] ∧ r'.frozen = false := by
  unfold registerArchitype at h
  obtain ⟨-, h⟩ := of_ite_error h
  obtain ⟨hnew, h⟩ := of_ite_error h
  obtain ⟨-, h⟩ := of_ite_error h
  simp only [newFields] at h
  split at h
  · cases h
    exact Or.inl rfl
  · rename_i hchanged
    obtain ⟨hfrozen, h⟩ := of_ite_error h
    rw [Bool.not_eq_true] at hfrozen
    cases hfind : r.find? key with
    | some b => simp [hfind] at hchanged
    | none =>
      have hrecord : r.record module key = .new module key := by
        unfold record
        rw [hfind]
        rfl
      rw [hfind, hrecord] at h
      cases h
      exact Or.inr ⟨rfl, hfrozen⟩

/-- **Entering the record at once** makes no difference to a slot: in a new record there is none
that it could be at odds with. -/
theorem declarationInPlace_eq (r : Registry) (module : String) (key : ArchKey)
    (spec : AbilitySpec) :
    r.declarationInPlace module key spec = r.settle (r.registerDeclaration module key spec) := by
  unfold declarationInPlace registerDeclaration
  rw [architypeInPlace_eq]
  cases h : r.registerArchitype module key ⟨[], [], false⟩ with
  | error e => rfl
  | ok p =>
    obtain ⟨r', a⟩ := p
    simp only [settle, bind, Except.bind, pure, Except.pure, throw, throwThe,
      MonadExceptOf.throw]
    -- nothing was entered, or a record without slots in a registry that is not frozen
    rcases registerArchitype_nothing h with rfl | ⟨hnil, hf⟩
    · cases a.ability? spec.name with
      | some old => simp only; split <;> rfl
      | none => simp only; split <;> rfl
    · have hnone : a.ability? spec.name = none := by
        unfold Architype.ability?
        rw [hnil]
        rfl
      simp only [hnone, hf, Bool.false_eq_true, if_false]

/-! ## Calls -/

/-- Whether a call registers something. -/
def Call.registers : Call → Bool
  | .architype .. | .declaration .. | .definition .. => true
  | .link | .freeze | .reset => false

/-- What a registration in place comes to as a call: the registry it leaves, and its error. -/
def called {α : Type} : Registry × Except RegistryError α → Registry × List RegistryError
  | (r, .ok _) => (r, [])
  | (r, .error e) => (r, [e])

/-- A call that is made in place: the registry it leaves, and its errors. -/
def inPlace (r : Registry) : Call → Registry × List RegistryError
  | .architype module key spec => called (r.architypeInPlace module key spec)
  | .declaration module key spec => called (r.declarationInPlace module key spec)
  | .definition module path body origin =>
    match r.registerDefinition module path body origin with
    | .ok r' => (r', [])
    | .error e => (r, [e])
  | .link => r.link
  | .freeze => (r.freeze, [])
  | .reset => (r.reset, [])

/-- **A call in place** leaves what the call leaves. -/
theorem inPlace_perform (r : Registry) (c : Call) : (r.inPlace c).1 = r.perform c := by
  cases c with
  | architype module key spec =>
    unfold inPlace perform
    simp only [architypeInPlace_eq]
    cases r.registerArchitype module key spec <;> rfl
  | declaration module key spec =>
    unfold inPlace perform
    simp only [declarationInPlace_eq]
    cases r.registerDeclaration module key spec <;> rfl
  | definition module path body origin =>
    unfold inPlace perform
    simp only
    cases r.registerDefinition module path body origin <;> rfl
  | link => rfl
  | freeze => rfl
  | reset => rfl

/-- What is settled changes nothing where it has an error. -/
theorem called_settle {α : Type} (x : Except RegistryError (Registry × α))
    (h : (called (r.settle x)).2 ≠ []) : (called (r.settle x)).1 = r := by
  cases x with
  | error e => rfl
  | ok p => exact absurd rfl h

/-- **A registration that fails changes nothing**, whatever registry it is made in. -/
theorem inPlace_failed {c : Call} (hc : c.registers = true) (h : (r.inPlace c).2 ≠ []) :
    (r.inPlace c).1 = r := by
  cases c with
  | architype module key spec =>
    unfold inPlace at h ⊢
    simp only [architypeInPlace_eq] at h ⊢
    exact called_settle _ h
  | declaration module key spec =>
    unfold inPlace at h ⊢
    simp only [declarationInPlace_eq] at h ⊢
    exact called_settle _ h
  | definition module path body origin =>
    unfold inPlace at h ⊢
    simp only at h ⊢
    cases hr : r.registerDefinition module path body origin with
    | error e => rfl
    | ok r' =>
      rw [hr] at h
      exact absurd rfl h
  | link => cases hc
  | freeze => cases hc
  | reset => cases hc

/-- **No call changes a frozen registry.** -/
theorem perform_frozen (hf : r.frozen = true) (c : Call) : r.perform c = r := by
  cases c with
  | architype module key spec =>
    unfold perform
    simp only
    cases h : r.registerArchitype module key spec with
    | error e => rfl
    | ok p => exact registerArchitype_frozen hf h
  | declaration module key spec =>
    unfold perform
    simp only
    cases h : r.registerDeclaration module key spec with
    | error e => rfl
    | ok p => exact registerDeclaration_frozen hf h
  | definition module path body origin =>
    unfold perform
    simp only
    cases h : r.registerDefinition module path body origin with
    | error e => rfl
    | ok r' => exact registerDefinition_frozen hf h
  | link =>
    unfold perform
    simp only
    rw [link_frozen hf]
  | freeze =>
    obtain ⟨archs, defs, frozen, epoch⟩ := r
    cases hf
    rfl
  | reset => exact if_pos hf

/-! ## What a registry holds -/

/-- Records are of kinds that exist. -/
def Valid (r : Registry) : Prop := ∀ a ∈ r.archs, a.kind.isValid = true

theorem Valid.put (hv : r.Valid) (ha : a.key = key) (hk : key.kind.isValid = true) :
    (r.put a).Valid := by
  intro b hb
  rcases mem_put hb with rfl | hb
  · have hkind : b.kind = key.kind := congrArg ArchKey.kind ha
    rw [hkind]
    exact hk
  · exact hv b hb

/-- **A call keeps kinds valid.** -/
theorem perform_valid (ok : r.Tidy) (hv : r.Valid) (c : Call) : (r.perform c).Valid := by
  cases c with
  | architype module key spec =>
    unfold perform
    simp only
    cases h : r.registerArchitype module key spec with
    | error e => exact hv
    | ok p =>
      obtain ⟨hr, hkey, -⟩ := registerArchitype_eq ok h
      simp only
      rw [hr]
      exact hv.put hkey (registerArchitype_takes h).valid
  | declaration module key spec =>
    unfold perform
    simp only
    cases h : r.registerDeclaration module key spec with
    | error e => exact hv
    | ok p =>
      obtain ⟨a, hr, hkey, -⟩ := registerDeclaration_eq ok h
      simp only
      rw [hr]
      exact hv.put hkey (registerDeclaration_into ok h).1
  | definition module path body origin =>
    unfold perform
    simp only
    cases h : r.registerDefinition module path body origin with
    | error e => exact hv
    | ok r' =>
      obtain ⟨b, -, ⟨-, -, -, -, rfl⟩ | ⟨-, rfl⟩⟩ := registerDefinition_eq h
      · exact hv
      · exact hv
  | link =>
    -- linking keeps the keys of records
    intro a ha
    have hkey : a.key ∈ r.link.1.archs.map Architype.key := List.mem_map_of_mem ha
    rw [link_keys ok.keys] at hkey
    obtain ⟨b, hb, hba⟩ := List.mem_map.1 hkey
    have hkind : a.kind = b.kind := congrArg ArchKey.kind hba.symm
    rw [hkind]
    exact hv b hb
  | freeze => exact hv
  | reset =>
    unfold perform reset
    simp only
    split
    · exact hv
    · exact fun a ha => by cases ha

/-- **After any calls** all records are of kinds that exist. -/
theorem performs_valid (cs : List Call) :
    ∀ {r : Registry}, r.Tidy → r.Valid → (r.performs cs).Valid := by
  induction cs with
  | nil => exact fun _ hv => hv
  | cons c cs ih => exact fun ok hv => ih (perform_tidy ok c) (perform_valid ok hv c)

/-- The slot of a record that has its name. -/
theorem Tidy.ability? (ok : r.Tidy) (ha : a ∈ r.archs) {s : Ability} (hs : s ∈ a.abilities) :
    a.ability? s.name = some s :=
  (find?_eq_some_of_nodup (ok.records a ha).named).2 ⟨hs, rfl⟩

/-- **Atomic calls.** Let a registry be reached by any calls. A call that is made in place leaves
what the call leaves, and the registry as it was if it registers something and fails. Once the
registry is frozen, no call changes it, and it accepts all that it holds: an architype with the
fields that the record has, the bases it has or none, and directed only if it is; a slot as it was
declared; and a definition from where it was defined. -/
theorem atomic_of_calls (cs : List Call) :
    let r := empty.performs cs
    (∀ c, (r.inPlace c).1 = r.perform c) ∧
    (∀ c : Call, c.registers = true → (r.inPlace c).2 ≠ [] → (r.inPlace c).1 = r) ∧
    (r.frozen = true →
      (∀ c, (r.inPlace c).1 = r) ∧
      (∀ a ∈ r.archs, ∀ (module : String) (spec : ArchSpec),
        (spec.bases = [] ∨ spec.bases = a.baseNames) →
        (∀ f ∈ spec.fields, ∃ old, a.field? f.name = some old ∧ old.type = f.type) →
        (spec.directed = true → a.directed = true) →
          r.architypeInPlace module a.key spec = (r, .ok a)) ∧
      (∀ a ∈ r.archs, ∀ s ∈ a.abilities, ∀ (module : String) (spec : AbilitySpec),
        spec.name = s.name → spec.signature = s.signature → spec.isAbstract = s.isAbstract →
          r.declarationInPlace module a.key spec = (r, .ok s)) ∧
      ∀ d ∈ r.defs, ∀ o, d.origin = some o → ∀ (module : String) (body : Body),
        r.inPlace (.definition module d.path (some body) (some o)) = (r, [])) := by
  intro r
  have ok : r.Tidy := tidy_of_calls cs
  have hv : r.Valid := performs_valid cs (empty_tidy 0) fun a ha => by cases ha
  refine ⟨r.inPlace_perform, fun c hc h => inPlace_failed hc h, fun hf => ⟨fun c => ?_, ?_, ?_, ?_⟩⟩
  · rw [inPlace_perform, perform_frozen hf]
  · intro a ha module spec hbases hfields hdirected
    have hknows : r.Knows a.key spec a :=
      ⟨hv a ha, ok.find?.2 ⟨ha, rfl⟩, hbases.imp_right Eq.symm, hfields, hdirected⟩
    rw [architypeInPlace_eq, (registerArchitype_eq_ok hf).2 ⟨rfl, hknows⟩]
    rfl
  · intro a ha s hs module spec hname hsignature habstract
    have hslot : a.ability? spec.name = some s := hname ▸ ok.ability? ha hs
    rw [declarationInPlace_eq, (registerDeclaration_eq_ok hf).2
      ⟨rfl, hv a ha, a, ok.find?.2 ⟨ha, rfl⟩, hslot, habstract.symm, hsignature.symm⟩]
    rfl
  · intro d hd o ho module body
    have hfound : r.definition? d.path = some d := (find?_eq_some_of_nodup ok.paths).2 ⟨hd, rfl⟩
    have haccept : r.registerDefinition module d.path (some body) (some o) = .ok r :=
      (registerDefinition_eq_ok hf).2 ⟨rfl, rfl, d, hfound, ho⟩
    unfold inPlace
    simp only [haccept]

/-- A frozen registry with a record that has a field, a slot and its definition. -/
def shelf : List Call :=
  [.architype "m" ⟨.node, "City"⟩ ⟨[], [⟨"size", .number, none⟩], true⟩,
    .declaration "m" ⟨.node, "City"⟩ ⟨"greet", ⟨[], .entry, []⟩, false⟩,
    .definition "m" ⟨.node, "City", "greet"⟩ (some default) (some ⟨"m", 0, 1, 0⟩),
    .link, .freeze]

/-- The field is not taken with another type, and is taken again as it is. -/
theorem atomic_shelf :
    let r := empty.performs shelf
    let retyped : Call := .architype "n" ⟨.node, "City"⟩ ⟨[], [⟨"size", .string, none⟩], false⟩
    r.frozen = true ∧ (r.inPlace retyped).2 ≠ [] ∧ (r.inPlace retyped).1 = r ∧
      ∃ a ∈ r.archs, r.architypeInPlace "n" a.key ⟨[], [⟨"size", .number, none⟩], false⟩ =
        (r, .ok a) := by
  intro r retyped
  have hf : r.frozen = true := rfl
  have hfails : (r.inPlace retyped).2 ≠ [] := by decide
  obtain ⟨-, hfailed, hfrozen⟩ := atomic_of_calls shelf
  refine ⟨hf, hfails, hfailed retyped rfl hfails, _, List.mem_cons_self, ?_⟩
  refine (hfrozen hf).2.1 _ List.mem_cons_self "n" _ (Or.inl rfl) ?_ (fun h => by cases h)
  intro f hm
  obtain rfl := List.mem_singleton.1 hm
  exact ⟨_, rfl, rfl⟩

end Registry

end GraphWalk
