import GraphWalk.Registry.Basic
import GraphWalk.Proofs.List.Distinct

/-!
# What registering does

A registry holds one record for each key, one slot of a record for each name, and one
definition for each path (`Tidy`). Registering an architype or a slot puts a record in
the place of the one with its key (`put`, `registerArchitype_eq`,
`registerDeclaration_eq`), registering a definition appends it
(`registerDefinition_eq`), and the registry stays tidy. Slots that are there stay as they
are: `Grows`.
-/

namespace GraphWalk

/-- A check that was passed. -/
theorem of_ite_error {ε α : Type} {c : Prop} [Decidable c] {e : ε} {x : Except ε α} {v : α}
    (h : (if c then .error e else x) = .ok v) : ¬c ∧ x = .ok v := by
  split at h
  · cases h
  · rename_i hc
    exact ⟨hc, h⟩

/-- The slots of a record are its own, and found by their names. -/
structure Architype.Tidy (a : Architype) : Prop where
  owned : ∀ s ∈ a.abilities, s.owner = a.key
  named : (a.abilities.map Ability.name).Nodup

/-- A record before linking and binding. -/
structure Architype.Bare (a : Architype) : Prop where
  unbound : ∀ s ∈ a.abilities, s.bound = none
  unlinked : a.linkedAbilities = []

namespace Registry

/-- Keys, names and paths are distinct. -/
structure Tidy (r : Registry) : Prop where
  keys : (r.archs.map Architype.key).Nodup
  records : ∀ a ∈ r.archs, a.Tidy
  paths : (r.defs.map Definition.path).Nodup

/-- Puts a record in the place of the one with its key, or at the end. -/
def put (r : Registry) (a : Architype) : Registry :=
  if (r.find? a.key).isNone then { r with archs := r.archs ++ [a] } else r.replace a

/-- Every record is still there, with its slots in front of new ones. -/
def Grows (r r' : Registry) : Prop :=
  ∀ key a, r.find? key = some a → ∃ a', r'.find? key = some a' ∧ a.abilities <+: a'.abilities

/-- The slot of a record that a path names. -/
def slotAt? (r : Registry) (p : Path) : Option Ability :=
  (r.find? p.key).bind (·.ability? p.ability)

/-- Whether a slot is there as a declaration says. -/
def Declares (r : Registry) (key : ArchKey) (spec : AbilitySpec) : Prop :=
  ∃ s, r.slotAt? ⟨key.kind, key.name, spec.name⟩ = some s ∧ s.signature = spec.signature ∧
    s.isAbstract = spec.isAbstract

variable {r r' r'' : Registry} {a b : Architype} {key : ArchKey} {module : String}

theorem find?_key (h : r.find? key = some a) : a.key = key := by
  simpa using List.find?_some h

theorem find?_mem (h : r.find? key = some a) : a ∈ r.archs := List.mem_of_find?_eq_some h

theorem Tidy.find? (ok : r.Tidy) : r.find? key = some a ↔ a ∈ r.archs ∧ a.key = key :=
  find?_eq_some_of_nodup ok.keys

theorem find?_eq_none : r.find? key = none ↔ key ∉ r.archs.map Architype.key := by
  unfold Registry.find?
  rw [List.find?_eq_none, List.mem_map]
  simp only [decide_eq_true_eq]
  constructor
  · rintro h ⟨b, hb, rfl⟩
    exact h b hb rfl
  · intro h b hb he
    exact h ⟨b, hb, he⟩

/-! ## Putting records -/

/-- A record with a new key can be appended. -/
theorem find?_append (hn : r.find? a.key = none) (k : ArchKey) :
    ({ r with archs := r.archs ++ [a] } : Registry).find? k =
      if k = a.key then some a else r.find? k := by
  unfold Registry.find? at *
  rw [List.find?_append]
  by_cases hk : k = a.key
  · subst hk
    rw [hn, if_pos rfl]
    simp
  · rw [if_neg hk]
    simp [Ne.symm hk]

theorem find?_replace (a : Architype) (k : ArchKey) :
    (r.replace a).find? k = if k = a.key then (r.find? k).map fun _ => a else r.find? k := by
  unfold Registry.find? replace
  simp only
  induction r.archs with
  | nil => simp
  | cons b bs ih =>
    by_cases hb : b.key = a.key
    · by_cases hk : k = a.key
      · subst hk
        simp [hb]
      · have hbk : b.key ≠ k := fun h => hk (h.symm.trans hb)
        simp only [List.map_cons, if_pos hb, if_neg hk] at ih ⊢
        rw [List.find?_cons_of_neg (by simpa using Ne.symm hk),
          List.find?_cons_of_neg (by simpa using hbk)]
        exact ih
    · by_cases hk : b.key = k
      · have hka : k ≠ a.key := fun h => hb (hk.trans h)
        simp [hk, hka]
      · simp only [List.map_cons, if_neg hb]
        rw [List.find?_cons_of_neg (by simpa using hk), List.find?_cons_of_neg (by simpa using hk)]
        exact ih

theorem put_of_key (ha : a.key = key) : r.put a =
    if (r.find? key).isNone then { r with archs := r.archs ++ [a] } else r.replace a := by
  unfold put
  rw [ha]

/-- **A record that was put is found** by its key; others are found as before. -/
theorem find?_put (r : Registry) (a : Architype) (k : ArchKey) :
    (r.put a).find? k = if k = a.key then some a else r.find? k := by
  unfold put
  by_cases hn : (r.find? a.key).isNone = true
  · rw [if_pos hn]
    exact find?_append (Option.isNone_iff_eq_none.1 hn) k
  · rw [if_neg hn, find?_replace]
    split
    · rename_i hk
      subst hk
      cases h : r.find? a.key with
      | none => simp [h] at hn
      | some b => rfl
    · rfl

theorem replace_keys (r : Registry) (a : Architype) :
    (r.replace a).archs.map Architype.key = r.archs.map Architype.key := by
  unfold replace
  rw [List.map_map]
  apply List.map_congr_left
  intro b _
  simp only [Function.comp]
  split
  · rename_i hb
    exact hb.symm
  · rfl

theorem mem_put (hb : b ∈ (r.put a).archs) : b = a ∨ b ∈ r.archs := by
  unfold put at hb
  split at hb
  · rcases List.mem_append.1 hb with hb | hb
    · exact Or.inr hb
    · exact Or.inl (List.mem_singleton.1 hb)
  · obtain ⟨c, hc, hcb⟩ := List.mem_map.1 hb
    split at hcb
    · exact Or.inl hcb.symm
    · exact Or.inr (hcb ▸ hc)

@[simp]
theorem put_defs (r : Registry) (a : Architype) : (r.put a).defs = r.defs := by
  unfold put; split <;> rfl

@[simp]
theorem put_frozen (r : Registry) (a : Architype) : (r.put a).frozen = r.frozen := by
  unfold put; split <;> rfl

/-- Of two records of one key, the second counts. -/
theorem put_put (ha : b.key = a.key) : (r.put a).replace b = r.put b := by
  unfold put
  rw [ha]
  split
  · rename_i hn
    have hn := find?_eq_none.1 (Option.isNone_iff_eq_none.1 hn)
    have hkeep : r.archs.map (fun c => if c.key = a.key then b else c) = r.archs := by
      refine (List.map_congr_left fun c hc => if_neg ?_).trans (List.map_id _)
      intro he
      exact hn (List.mem_map.2 ⟨c, hc, he⟩)
    simp [replace, ha, hkeep]
  · unfold replace
    simp only [List.map_map, Registry.mk.injEq, and_true]
    apply List.map_congr_left
    intro c _
    simp only [Function.comp]
    by_cases hc : c.key = a.key
    · simp [hc, ha]
    · simp [hc, ha]

/-- Putting back what is there changes nothing. -/
theorem put_self (ok : r.Tidy) (h : r.find? a.key = some a) : r.put a = r := by
  unfold put replace
  rw [h, if_neg (by simp)]
  have : r.archs.map (fun b => if b.key = a.key then a else b) = r.archs := by
    refine (List.map_congr_left fun b hb => ?_).trans (List.map_id _)
    split
    · rename_i he
      exact (Option.some.inj (h.symm.trans (ok.find?.2 ⟨hb, he⟩)))
    · rfl
  rw [this]

/-- Records that are put in place of others leave the keys as they are. -/
theorem Tidy.put (ok : r.Tidy) (ha : a.Tidy) : (r.put a).Tidy := by
  refine ⟨?_, fun b hb => ?_, by rw [put_defs]; exact ok.paths⟩
  · unfold Registry.put
    split
    · rename_i hn
      exact nodup_append_of_find?_eq_none ok.keys (Option.isNone_iff_eq_none.1 hn)
    · rw [replace_keys]
      exact ok.keys
  · rcases mem_put hb with rfl | hb
    · exact ha
    · exact ok.records b hb

theorem Grows.refl (r : Registry) : r.Grows r := fun _ a h => ⟨a, h, List.prefix_refl _⟩

theorem Grows.trans (h : r.Grows r') (h' : r'.Grows r'') : r.Grows r'' := by
  intro key a ha
  obtain ⟨b, hb, hab⟩ := h key a ha
  obtain ⟨c, hc, hbc⟩ := h' key b hb
  exact ⟨c, hc, hab.trans hbc⟩

/-- Equal slots are slots in front of none. -/
theorem slots_prefix {xs ys : List Ability} (h : xs = ys) : xs <+: ys :=
  ⟨[], by rw [h, List.append_nil]⟩

theorem Grows.put (h : ∀ b, r.find? a.key = some b → b.abilities <+: a.abilities) :
    r.Grows (r.put a) := by
  intro key b hb
  rw [find?_put]
  split
  · rename_i hk
    subst hk
    exact ⟨a, rfl, h b hb⟩
  · exact ⟨b, hb, List.prefix_refl _⟩

/-- What is declared stays declared. -/
theorem Declares.grows {spec : AbilitySpec} (h : r.Declares key spec) (hg : r.Grows r') :
    r'.Declares key spec := by
  obtain ⟨s, hs, hspec⟩ := h
  obtain ⟨a, ha, hs⟩ := Option.bind_eq_some_iff.1 hs
  obtain ⟨a', ha', t, ht⟩ := hg _ a ha
  refine ⟨s, Option.bind_eq_some_iff.2 ⟨a', ha', ?_⟩, hspec⟩
  unfold Architype.ability? at hs ⊢
  rw [← ht, List.find?_append, hs]
  rfl

/-! ## Registering -/

theorem record_key (r : Registry) (module : String) (key : ArchKey) :
    (r.record module key).key = key := by
  unfold record
  cases h : r.find? key with
  | none => rfl
  | some a => exact find?_key h

theorem record_of_find? (h : r.find? key = some a) : r.record module key = a := by
  unfold record
  rw [h]
  rfl

/-- A property of all records and of new ones holds of the record to start from. -/
theorem record_of_forall {P : Architype → Prop} (h : ∀ a ∈ r.archs, P a)
    (hnew : P (.new module key)) : P (r.record module key) := by
  unfold record
  cases ha : r.find? key with
  | none => exact hnew
  | some a => exact h a (find?_mem ha)

theorem Tidy.record (ok : r.Tidy) : (r.record module key).Tidy :=
  record_of_forall ok.records ⟨fun s hs => by simp [Architype.new] at hs, by simp [Architype.new]⟩

/-- **Registering an architype** puts a record of its key that has the slots of the
record that was there. -/
theorem registerArchitype_eq (ok : r.Tidy) {spec : ArchSpec}
    (h : r.registerArchitype module key spec = .ok (r', a)) :
    r' = r.put a ∧ a.key = key ∧ a.abilities = (r.record module key).abilities ∧
      a.linkedAbilities = (r.record module key).linkedAbilities := by
  have hkey := r.record_key module key
  unfold registerArchitype at h
  obtain ⟨-, h⟩ := of_ite_error h
  obtain ⟨-, h⟩ := of_ite_error h
  obtain ⟨-, h⟩ := of_ite_error h
  cases hf : newFields (r.record module key) spec.fields with
  | error p => rw [hf] at h; cases h
  | ok added =>
    rw [hf] at h
    simp only at h
    split at h
    · -- nothing has changed, so the record was there
      rename_i hchanged
      cases h
      refine ⟨?_, hkey, rfl, rfl⟩
      cases hf : r.find? key with
      | none => simp [hf] at hchanged
      | some b =>
        rw [record_of_find? hf]
        exact (put_self ok (by rw [find?_key hf]; exact hf)).symm
    · obtain ⟨-, h⟩ := of_ite_error h
      cases h
      refine ⟨(put_of_key ?_).symm, hkey, rfl, rfl⟩
      exact hkey

/-- **Registering a slot** puts a record that has it: with the slots that were there, or
with a new one after them. -/
theorem registerDeclaration_eq (ok : r.Tidy) {spec : AbilitySpec} {slot : Ability}
    (h : r.registerDeclaration module key spec = .ok (r', slot)) :
    ∃ a : Architype, r' = r.put a ∧ a.key = key ∧
      a.linkedAbilities = (r.record module key).linkedAbilities ∧
      a.ability? spec.name = some slot ∧ slot.signature = spec.signature ∧
      slot.isAbstract = spec.isAbstract ∧
      (a.abilities = (r.record module key).abilities ∨
        (r.record module key).ability? spec.name = none ∧ slot.name = spec.name ∧
          slot.owner = key ∧ slot.bound = none ∧
          a.abilities = (r.record module key).abilities ++ [slot]) := by
  unfold registerDeclaration at h
  cases ha : r.registerArchitype module key ⟨[], [], false⟩ with
  | error e => rw [ha] at h; cases h
  | ok p =>
    obtain ⟨r₁, a⟩ := p
    obtain ⟨rfl, hkey, hab, hlinked⟩ := registerArchitype_eq ok ha
    rw [ha] at h
    simp only [bind, Except.bind] at h
    split at h
    · rename_i old hold
      split at h
      · rename_i hsame
        cases h
        exact ⟨a, rfl, hkey, hlinked, hold, by simpa using hsame.2, hsame.1, Or.inl hab⟩
      · cases h
    · -- the slot is new and comes last
      rename_i hnone
      split at h
      · cases h
      · cases h
        refine ⟨_, put_put rfl, hkey, hlinked, ?_, rfl, rfl, Or.inr ⟨?_, rfl, rfl, rfl, ?_⟩⟩
        · unfold Architype.ability? at hnone ⊢
          rw [List.find?_append, hnone]
          simp
        · unfold Architype.ability? at hnone ⊢
          rw [← hab]
          exact hnone
        · rw [hab]

/-- **Registering a definition** appends it, or finds that it is there. -/
theorem registerDefinition_eq {path : Path} {body : Option Body} {origin : Option Origin}
    (h : r.registerDefinition module path body origin = .ok r') :
    ∃ b, body = some b ∧
      ((∃ old ∈ r.defs, old.origin = origin ∧ origin.isSome = true ∧ r' = r) ∨
        r.definition? path = none ∧
          r' = { r with defs := r.defs ++ [⟨path, module, b, origin⟩] }) := by
  unfold registerDefinition at h
  split at h
  · cases h
  · rename_i b
    refine ⟨b, rfl, ?_⟩
    split at h
    · rename_i old hold
      split at h
      · rename_i hsame
        cases h
        exact Or.inl ⟨old, List.mem_of_find?_eq_some hold, hsame.2, hsame.1, rfl⟩
      · cases h
    · rename_i hnone
      split at h
      · cases h
      · cases h
        exact Or.inr ⟨hnone, rfl⟩

/-! ## Tidiness -/

/-- **Registering** keeps a registry tidy, whatever it registers. -/
theorem Tidy.registerArchitype (ok : r.Tidy) {spec : ArchSpec}
    (h : r.registerArchitype module key spec = .ok (r', a)) : r'.Tidy := by
  obtain ⟨rfl, hkey, hab, -⟩ := registerArchitype_eq ok h
  have ht : (r.record module key).Tidy := ok.record
  refine ok.put ⟨fun s hs => ?_, by rw [hab]; exact ht.named⟩
  rw [hab] at hs
  rw [hkey, ht.owned s hs, record_key]

theorem Tidy.registerDeclaration (ok : r.Tidy) {spec : AbilitySpec} {slot : Ability}
    (h : r.registerDeclaration module key spec = .ok (r', slot)) : r'.Tidy := by
  obtain ⟨a, rfl, hkey, -, -, -, -, hab⟩ := registerDeclaration_eq ok h
  have ht : (r.record module key).Tidy := ok.record
  have howned : ∀ s ∈ (r.record module key).abilities, s.owner = a.key := fun s hs => by
    rw [ht.owned s hs, record_key, hkey]
  refine ok.put ?_
  rcases hab with hab | ⟨hnone, hname, howner, -, hab⟩
  · exact ⟨by rw [hab]; exact howned, by rw [hab]; exact ht.named⟩
  · -- the new slot has a new name
    refine ⟨fun s hs => ?_, ?_⟩
    · rw [hab] at hs
      rcases List.mem_append.1 hs with hs | hs
      · exact howned s hs
      · rw [List.mem_singleton.1 hs, howner, hkey]
    · rw [hab]
      rw [← hname] at hnone
      exact nodup_append_of_find?_eq_none ht.named hnone

theorem Tidy.registerDefinition (ok : r.Tidy) {path : Path} {body : Option Body}
    {origin : Option Origin} (h : r.registerDefinition module path body origin = .ok r') :
    r'.Tidy := by
  obtain ⟨b, rfl, ⟨old, -, -, -, rfl⟩ | ⟨hnone, rfl⟩⟩ := registerDefinition_eq h
  · exact ok
  · exact ⟨ok.keys, ok.records, nodup_append_of_find?_eq_none ok.paths hnone⟩

end Registry

end GraphWalk
