import GraphWalk.Proofs.Module.Failure
import GraphWalk.Proofs.Registry.Again

/-!
# What a frozen registry accepts

A frozen registry accepts a registration exactly if it holds already all that the
registration says, and is the same afterwards: `registerArchitype_eq_ok` for architypes,
`registerDeclaration_eq_ok` for slots and `registerDefinition_eq_ok` for definitions. Of
fields it compares the types only, and of bodies only where they were written.
-/

namespace GraphWalk

namespace Registry

variable {r r' : Registry} {module : String} {key : ArchKey} {a : Architype}

/-- The record has all that a declaration says. -/
structure Knows (r : Registry) (key : ArchKey) (spec : ArchSpec) (a : Architype) : Prop where
  valid : key.kind.isValid = true
  found : r.find? key = some a
  bases : spec.bases = [] ∨ a.baseNames = spec.bases
  fields : a.Has spec.fields
  directed : spec.directed = true → a.directed = true

/-- A frozen registry answers with the record that it has. -/
theorem find?_of_registerArchitype (hf : r.frozen = true) {spec : ArchSpec}
    (h : r.registerArchitype module key spec = .ok (r', a)) : r.find? key = some a := by
  unfold registerArchitype at h
  obtain ⟨-, h⟩ := of_ite_error h
  obtain ⟨hnew, h⟩ := of_ite_error h
  obtain ⟨-, h⟩ := of_ite_error h
  rw [hf, Bool.and_true, Bool.not_eq_true, Option.isNone_eq_false_iff] at hnew
  obtain ⟨b, hb⟩ := Option.isSome_iff_exists.1 hnew
  rw [hb]
  cases hfields : newFields (r.record module key) spec.fields with
  | error p => rw [hfields] at h; cases h
  | ok added =>
    rw [hfields] at h
    simp only at h
    split at h
    · cases h
      rw [record_of_find? hb]
    · cases h

/-- **A declaration of an architype** to a frozen registry. -/
theorem registerArchitype_eq_ok (hf : r.frozen = true) {spec : ArchSpec} :
    r.registerArchitype module key spec = .ok (r', a) ↔ r' = r ∧ r.Knows key spec a := by
  constructor
  · intro h
    have hr := registerArchitype_frozen hf h
    have hfound := find?_of_registerArchitype hf h
    obtain ⟨hvalid, -, hbases, -, hdirected⟩ := registerArchitype_takes h
    refine ⟨hr, hvalid, hfound, hbases, ?_, hdirected⟩
    by_contra hno
    obtain ⟨e, he⟩ :=
      (registerArchitype_of_find? module hf hvalid hfound hbases hdirected).2 hno
    rw [h] at he
    cases he
  · rintro ⟨rfl, hk⟩
    exact (registerArchitype_of_find? module hf hk.valid hk.found hk.bases hk.directed).1
      hk.fields

/-- A record that is there is all that a slot asks for. -/
theorem knows_nothing_new :
    r.Knows key ⟨[], [], false⟩ a ↔ key.kind.isValid = true ∧ r.find? key = some a := by
  refine ⟨fun h => ⟨h.valid, h.found⟩,
    fun ⟨hvalid, hfound⟩ => ⟨hvalid, hfound, Or.inl rfl, ?_, ?_⟩⟩
  · intro f hm
    cases hm
  · intro hd
    cases hd

/-- **A declaration of a slot** to a frozen registry. -/
theorem registerDeclaration_eq_ok (hf : r.frozen = true) {spec : AbilitySpec} {slot : Ability} :
    r.registerDeclaration module key spec = .ok (r', slot) ↔
      r' = r ∧ key.kind.isValid = true ∧ ∃ a, r.find? key = some a ∧
        a.ability? spec.name = some slot ∧ slot.isAbstract = spec.isAbstract ∧
        slot.signature = spec.signature := by
  unfold registerDeclaration
  cases ha : r.registerArchitype module key ⟨[], [], false⟩ with
  | error e =>
    simp only [bind, Except.bind, reduceCtorEq, false_iff]
    rintro ⟨rfl, hvalid, a, hfound, -⟩
    rw [(registerArchitype_eq_ok hf).2 ⟨rfl, knows_nothing_new.2 ⟨hvalid, hfound⟩⟩] at ha
    cases ha
  | ok p =>
    obtain ⟨r₁, a⟩ := p
    obtain ⟨rfl, hk⟩ := (registerArchitype_eq_ok hf).1 ha
    obtain ⟨hvalid, hfound⟩ := knows_nothing_new.1 hk
    simp only [bind, Except.bind, hfound, Option.some.injEq, exists_eq_left', hvalid, true_and]
    cases hslot : a.ability? spec.name with
    | none =>
      simp only [hf, if_true]
      constructor
      · intro h
        cases h
      · rintro ⟨-, hn, -⟩
        cases hn
    | some old =>
      simp only [Option.some.injEq, beq_iff_eq]
      constructor
      · intro h
        split at h
        · rename_i hsame
          cases h
          exact ⟨rfl, rfl, hsame⟩
        · cases h
      · rintro ⟨rfl, rfl, hsame⟩
        rw [if_pos hsame]
        rfl

/-- **A definition** to a frozen registry. -/
theorem registerDefinition_eq_ok (hf : r.frozen = true) {path : Path} {body : Option Body}
    {o : Origin} :
    r.registerDefinition module path body (some o) = .ok r' ↔
      r' = r ∧ body.isSome = true ∧ ∃ d, r.definition? path = some d ∧ d.origin = some o := by
  unfold registerDefinition
  cases body with
  | none => simp
  | some b =>
    cases hd : r.definition? path with
    | none => simp [hf]
    | some old =>
      simp only [Option.isSome_some, true_and, Option.some.injEq, exists_eq_left']
      constructor
      · intro h
        split at h
        · rename_i hsame
          cases h
          exact ⟨rfl, hsame⟩
        · cases h
      · rintro ⟨rfl, hsame⟩
        rw [if_pos hsame]

/-! ## Modules -/

/-- A slot of an architype is there as it is declared, and where it comes with a body, the
definition at its path was written there. -/
def CoversAbility (r : Registry) (m : Module) (element : Nat) (d : ArchDecl) (i : Nat)
    (ab : AbilityDecl) : Prop :=
  (∃ a slot, r.find? ⟨d.kind, d.name⟩ = some a ∧ a.ability? ab.name = some slot ∧
    slot.isAbstract = ab.isAbstract ∧ slot.signature = ab.signature) ∧
  (ab.body.isSome = true → ∃ def_, r.definition? ⟨d.kind, d.name, ab.name⟩ = some def_ ∧
    def_.origin = some ⟨m.name, m.stamp, element, i + 1⟩)

/-- All that an element says of architypes and definitions is there. Imports, globals,
tests and graphs say nothing of them. -/
def Covers (r : Registry) (m : Module) (element : Nat) : Element → Prop
  | .arch d => (∃ a, r.Knows ⟨d.kind, d.name⟩ ⟨d.bases, d.fields, d.directed⟩ a) ∧
    ∀ i ab, d.abilities[i]? = some ab → r.CoversAbility m element d i ab
  | .impl d => d.body.isSome = true ∧ ∃ def_, r.definition? d.path = some def_ ∧
    def_.origin = some ⟨m.name, m.stamp, element, 0⟩
  | _ => True

variable {m : Module} {element : Nat}

/-- What holds of each place of a list holds of the first one and of those behind it. -/
theorem forall_getElem?_cons {α : Type} {P : Nat → α → Prop} {x : α} {xs : List α} {i : Nat} :
    (∀ j y, (x :: xs)[j]? = some y → P (i + j) y) ↔
      P i x ∧ ∀ j y, xs[j]? = some y → P (i + 1 + j) y := by
  constructor
  · refine fun h => ⟨h 0 x rfl, fun j y hy => ?_⟩
    rw [Nat.add_right_comm, Nat.add_assoc]
    exact h (j + 1) y hy
  · rintro ⟨hx, hxs⟩ j y hy
    cases j with
    | zero =>
      obtain rfl := Option.some.inj hy
      exact hx
    | succ j =>
      rw [← Nat.add_assoc, Nat.add_right_comm]
      exact hxs j y hy

/-- A slot is covered exactly if the registry takes it and its body. -/
theorem coversAbility_iff (hf : r.frozen = true) {d : ArchDecl} (hvalid : d.kind.isValid = true)
    {i : Nat} {ab : AbilityDecl} :
    r.CoversAbility m element d i ab ↔
      (∃ slot, r.registerDeclaration m.name ⟨d.kind, d.name⟩
        ⟨ab.name, ab.signature, ab.isAbstract⟩ = .ok (r, slot)) ∧
      (ab.body.isSome = true → r.registerDefinition m.name ⟨d.kind, d.name, ab.name⟩ ab.body
        (some ⟨m.name, m.stamp, element, i + 1⟩) = .ok r) := by
  unfold CoversAbility
  simp only [registerDeclaration_eq_ok hf, registerDefinition_eq_ok hf, hvalid, true_and]
  refine and_congr exists_comm (forall_congr' fun hbody => ?_)
  rw [hbody]
  simp only [true_and]

/-- **The slots of an architype**: a frozen registry takes them exactly if it covers
them. -/
theorem collectAbilities_covers (m : Module) (element : Nat) (hf : r.frozen = true) {d : ArchDecl}
    (hvalid : d.kind.isValid = true) (abs : List AbilityDecl) :
    ∀ i, ∃ es, collectAbilities m element d i abs r = (r, es) ∧
      (es = [] ↔ ∀ j ab, abs[j]? = some ab → r.CoversAbility m element d (i + j) ab) := by
  induction abs with
  | nil => exact fun i => ⟨[], rfl, iff_of_true rfl fun j ab h => by cases h⟩
  | cons ab abs ih =>
    intro i
    obtain ⟨es, hes, hrest⟩ := ih (i + 1)
    rw [forall_getElem?_cons, ← hrest, coversAbility_iff hf hvalid]
    unfold collectAbilities
    cases hd : r.registerDeclaration m.name ⟨d.kind, d.name⟩
        ⟨ab.name, ab.signature, ab.isAbstract⟩ with
    | error e => exact ⟨e :: es, by simp [hes], by simp⟩
    | ok p =>
      obtain ⟨r₁, slot⟩ := p
      obtain ⟨rfl, -⟩ := (registerDeclaration_eq_ok hf).1 hd
      cases hb : ab.body with
      | none => exact ⟨es, by simp [hes], by simp⟩
      | some b =>
        cases hdef : r₁.registerDefinition m.name ⟨d.kind, d.name, ab.name⟩ (some b)
            (some ⟨m.name, m.stamp, element, i + 1⟩) with
        | error e => exact ⟨e :: es, by simp [hdef, hes], by simp⟩
        | ok r₂ =>
          obtain ⟨rfl, -⟩ := (registerDefinition_eq_ok hf).1 hdef
          exact ⟨es, by simp [hdef, hes], by simp⟩

/-- **An element**: a frozen registry takes it exactly if it covers it. -/
theorem collectElement_covers (m : Module) (element : Nat) (hf : r.frozen = true) (el : Element) :
    ∃ es, collectElement m element r el = (r, es) ∧ (es = [] ↔ r.Covers m element el) := by
  cases el with
  | arch d =>
    simp only [collectElement, Covers]
    cases ha : r.registerArchitype m.name ⟨d.kind, d.name⟩ ⟨d.bases, d.fields, d.directed⟩ with
    | error e =>
      refine ⟨[e], rfl, iff_of_false (List.cons_ne_nil e []) ?_⟩
      rintro ⟨⟨a, hk⟩, -⟩
      rw [(registerArchitype_eq_ok hf).2 ⟨rfl, hk⟩] at ha
      cases ha
    | ok p =>
      obtain ⟨r₁, a⟩ := p
      obtain ⟨rfl, hk⟩ := (registerArchitype_eq_ok hf).1 ha
      obtain ⟨es, hes, hcovers⟩ :=
        collectAbilities_covers m element hf hk.valid d.abilities 0
      simp only [Nat.zero_add] at hcovers
      exact ⟨es, hes, hcovers.trans (and_iff_right ⟨a, hk⟩).symm⟩
  | impl d =>
    simp only [collectElement, Covers]
    cases hd : r.registerDefinition m.name d.path d.body
        (some ⟨m.name, m.stamp, element, 0⟩) with
    | error e =>
      refine ⟨[e], rfl, iff_of_false (List.cons_ne_nil e []) fun hc => ?_⟩
      rw [(registerDefinition_eq_ok hf).2 ⟨rfl, hc⟩] at hd
      cases hd
    | ok r₁ =>
      obtain ⟨rfl, hc⟩ := (registerDefinition_eq_ok hf).1 hd
      exact ⟨[], rfl, iff_of_true rfl hc⟩
  | _ => exact ⟨[], rfl, iff_of_true rfl trivial⟩

theorem collectElements_covers (m : Module) (hf : r.frozen = true) (els : List Element) :
    ∀ i, ∃ es, collectElements m i els r = (r, es) ∧
      (es = [] ↔ ∀ j el, els[j]? = some el → r.Covers m (i + j) el) := by
  induction els with
  | nil => exact fun i => ⟨[], rfl, iff_of_true rfl fun j el h => by cases h⟩
  | cons el els ih =>
    intro i
    obtain ⟨es, hes, hcovers⟩ := collectElement_covers m i hf el
    obtain ⟨es', hes', hrest⟩ := ih (i + 1)
    refine ⟨es ++ es', ?_, ?_⟩
    · unfold collectElements
      simp only [hes, hes']
    · rw [List.append_eq_nil_iff, hcovers, hrest, forall_getElem?_cons]

/-- **Modules**: a frozen registry takes them exactly if it covers all their elements. -/
theorem collect_covers (hf : r.frozen = true) (mods : List Module) :
    ∃ es, collect mods r = (r, es) ∧
      (es = [] ↔ ∀ m ∈ mods, ∀ i el, m.elements[i]? = some el → r.Covers m i el) := by
  induction mods with
  | nil => exact ⟨[], rfl, iff_of_true rfl fun m hm => by cases hm⟩
  | cons m mods ih =>
    obtain ⟨es, hes, hcovers⟩ := collectElements_covers m hf m.elements 0
    obtain ⟨es', hes', hrest⟩ := ih
    refine ⟨es ++ es', ?_, ?_⟩
    · unfold collect
      simp only [hes, hes']
    · rw [List.append_eq_nil_iff, hcovers, hrest, List.forall_mem_cons]
      simp only [Nat.zero_add]

end Registry

end GraphWalk
