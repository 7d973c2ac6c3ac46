import GraphWalk.Architype.Basic
import GraphWalk.Proofs.Value.Keys
import Mathlib.Data.Set.Insert

/-!
# Field sets and the values that are set

Setting a field changes the value of one slot, the one that the name stands for
(`set_spec`). `AgreeOff names f g` says that two field sets have the same fields and
differ at most in what `names` stand for.

`new_of_values`: **a field set is determined by what its names stand for.** If every name
is set to the value that it has in `f`, then a new field set becomes `f`, whatever was
written to `f` before and in which order. `MadeFor` are the field sets that writing leads
to, which is all that can happen to the fields of an instance.
-/

namespace GraphWalk.Fields

variable {f g e : Fields} {names names' : Set String} {k : String} {s : FieldSlot} {v w : Value}

/-- The place, from the end, of the slot that a name stands for. -/
def place (f : Fields) (name : String) : Nat := f.slots.reverse.findIdx (·.field.name = name)

/-- The fields are the same, and so are the values but for what `names` stand for. -/
structure AgreeOff (names : Set String) (f g : Fields) : Prop where
  fields : f.slots.map (·.field) = g.slots.map (·.field)
  slot : ∀ i, (∀ n ∈ names, f.place n ≠ i) → f.slots.reverse[i]? = g.slots.reverse[i]?

theorem slot?_eq_place (f : Fields) (name : String) :
    f.slot? name = f.slots.reverse[f.place name]? := List.find?_eq_getElem?_findIdx

/-- Where a name stands depends on the fields only. -/
theorem place_congr (h : f.slots.map (·.field) = g.slots.map (·.field)) (name : String) :
    f.place name = g.place name := by
  have hplace : ∀ e : Fields, e.place name =
      (e.slots.map (·.field)).reverse.findIdx fun d => decide (d.name = name) := by
    intro e
    rw [← List.map_reverse, List.findIdx_map]
    rfl
  rw [hplace, hplace, h]

/-- A name that stands for a slot here stands for a slot of the same field there. -/
theorem slot?_of_fields (h : f.slots.map (·.field) = g.slots.map (·.field))
    (hs : g.slot? k = some s) : ∃ s', f.slot? k = some s' ∧ s'.field = s.field := by
  have hfield : (f.slot? k).map (·.field) = (g.slot? k).map (·.field) := by
    rw [slot?_eq_place, slot?_eq_place, ← List.getElem?_map, ← List.getElem?_map, List.map_reverse,
      List.map_reverse, h, place_congr h]
  rw [hs, Option.map_some] at hfield
  exact Option.map_eq_some_iff.1 hfield

/-- Replacing the first slot of a name sets the place where it is found. -/
theorem replaceFirst_eq_set {name : String} (v : Value) {l : List FieldSlot}
    (h : l.find? (·.field.name = name) = some s) :
    replaceFirst name v l = l.set (l.findIdx (·.field.name = name)) { s with value := v } := by
  induction l with
  | nil => cases h
  | cons t l ih =>
    unfold replaceFirst
    rw [List.findIdx_cons]
    rw [List.find?_cons] at h
    by_cases ht : t.field.name = name
    · simp only [ht, decide_true, Option.some.injEq] at h
      cases h
      simp [ht]
    · simp only [ht, decide_false] at h
      simp [ht, ih h]

/-- **Setting a field** changes the value of the slot that the name stands for, and
nothing else. -/
theorem set_spec (h : f.slot? k = some s) (hc : v.convert s.field.type = .ok w) :
    ∃ g, f.set k v = .ok g ∧ g.slots.map (·.field) = f.slots.map (·.field) ∧
      ∀ i, g.slots.reverse[i]? =
        if f.place k = i then some ⟨s.field, w⟩ else f.slots.reverse[i]? := by
  have hset : f.set k v = .ok ⟨(f.slots.reverse.set (f.place k) ⟨s.field, w⟩).reverse⟩ := by
    unfold set
    rw [h]
    simp only [hc]
    rw [replaceFirst_eq_set w h]
    rfl
  rw [slot?_eq_place] at h
  have hget : ∀ i, (f.slots.reverse.set (f.place k) ⟨s.field, w⟩)[i]? =
      if f.place k = i then some ⟨s.field, w⟩ else f.slots.reverse[i]? := by
    intro i
    split
    · rename_i hi
      subst hi
      exact List.getElem?_set_self (List.getElem?_eq_some_iff.1 h).1
    · rename_i hi
      exact List.getElem?_set_ne hi
  refine ⟨_, hset, ?_, fun i => by rw [List.reverse_reverse]; exact hget i⟩
  rw [List.map_reverse, List.reverse_eq_iff, ← List.map_reverse]
  refine List.ext_getElem? fun i => ?_
  rw [List.getElem?_map, hget, List.getElem?_map]
  split
  · rename_i hi
    subst hi
    rw [h]
    rfl
  · rfl

/-- What setting a field has checked, if it succeeds. -/
theorem of_set (h : f.set k v = .ok g) :
    ∃ s w, f.slot? k = some s ∧ v.convert s.field.type = .ok w := by
  unfold set at h
  split at h
  · cases h
  · rename_i s hs
    split at h
    · rename_i w hw
      exact ⟨s, w, hs, hw⟩
    · cases h

namespace AgreeOff

theorem refl (names : Set String) (f : Fields) : AgreeOff names f f := ⟨rfl, fun _ _ => rfl⟩

theorem symm (h : AgreeOff names f g) : AgreeOff names g f :=
  ⟨h.fields.symm, fun i hi => (h.slot i fun n hn => place_congr h.fields n ▸ hi n hn).symm⟩

theorem trans (h : AgreeOff names f g) (h' : AgreeOff names g e) : AgreeOff names f e :=
  ⟨h.fields.trans h'.fields, fun i hi =>
    (h.slot i hi).trans (h'.slot i fun n hn => place_congr h.fields n ▸ hi n hn)⟩

theorem mono (h : AgreeOff names f g) (hn : names ⊆ names') : AgreeOff names' f g :=
  ⟨h.fields, fun i hi => h.slot i fun n hm => hi n (hn hm)⟩

theorem slot? (h : AgreeOff names f g) (hs : g.slot? k = some s) :
    ∃ s', f.slot? k = some s' ∧ s'.field = s.field := slot?_of_fields h.fields hs

/-- Names that stand for nothing do not matter. -/
theorem of_unknown (h : AgreeOff names f g) (hn : ∀ n ∈ names, n ∉ names' → g.slot? n = none) :
    AgreeOff names' f g := by
  refine ⟨h.fields, fun i hi => ?_⟩
  by_cases hex : ∃ n ∈ names, f.place n = i
  · obtain ⟨n, hn₁, rfl⟩ := hex
    have hnone := hn n hn₁ fun hn' => hi n hn' rfl
    have hnone' : f.slot? n = none := by
      cases hs : f.slot? n with
      | none => rfl
      | some s =>
        obtain ⟨s', hs', -⟩ := h.symm.slot? hs
        rw [hnone] at hs'
        cases hs'
    rw [← slot?_eq_place, hnone', place_congr h.fields, ← slot?_eq_place, hnone]
  · exact h.slot i fun n hn' hp => hex ⟨n, hn', hp⟩

theorem eq (h : AgreeOff ∅ f g) : f = g := by
  have hslots : f.slots.reverse = g.slots.reverse :=
    List.ext_getElem? fun i => h.slot i fun n hn => absurd hn (Set.notMem_empty n)
  cases f
  cases g
  rw [Fields.mk.injEq]
  exact List.reverse_injective hslots

end AgreeOff

/-- Setting a field leaves all other slots. -/
theorem agreeOff_set (h : f.set k v = .ok g) : AgreeOff {k} f g := by
  obtain ⟨s, w, hs, hw⟩ := of_set h
  obtain ⟨g', hg, hfields, hslots⟩ := set_spec hs hw
  rw [h] at hg
  cases hg
  exact ⟨hfields.symm, fun i hi => by rw [hslots, if_neg (hi k rfl)]⟩

theorem agreeOff_setAll (writes : List (String × Value)) :
    ∀ {f : Fields}, f.setAll writes = .ok g → AgreeOff Set.univ f g := by
  induction writes with
  | nil =>
    intro f h
    cases h
    exact .refl _ _
  | cons kv writes ih =>
    intro f h
    obtain ⟨k, v⟩ := kv
    unfold setAll at h
    cases hs : f.set k v with
    | error err => rw [hs] at h; cases h
    | ok f₁ =>
      rw [hs] at h
      exact ((agreeOff_set hs).mono (Set.subset_univ _)).trans (ih h)

/-- **Setting the values that `f` has** leads to `f`, if nothing else differs. -/
theorem setAll_values (kvs : List (String × Value))
    (hkvs : ∀ p ∈ kvs, ∃ s, f.slot? p.1 = some s ∧ s.value = p.2 ∧
      s.value.convert s.field.type = .ok s.value) :
    ∀ {g : Fields}, AgreeOff {n | n ∈ kvs.map (·.1)} g f → g.setAll kvs = .ok f := by
  induction kvs with
  | nil =>
    intro g h
    have : AgreeOff ∅ g f := h.mono (by simp)
    rw [this.eq]
    rfl
  | cons p kvs ih =>
    intro g h
    obtain ⟨k, v⟩ := p
    obtain ⟨s, hs, rfl, hc⟩ := hkvs (k, v) List.mem_cons_self
    obtain ⟨s', hs', hfield⟩ := h.slot? hs
    obtain ⟨g₁, hset, hfields, hslots⟩ := set_spec hs' (by rw [hfield]; exact hc)
    unfold setAll
    rw [hset]
    refine ih (fun p hp => hkvs p (List.mem_cons_of_mem _ hp)) ⟨hfields.trans h.fields, ?_⟩
    intro i hi
    rw [hslots]
    split
    · rename_i hik
      subst hik
      rw [place_congr h.fields, ← slot?_eq_place, hs, hfield]
    · rename_i hik
      refine h.slot i fun n hn => ?_
      rcases List.mem_cons.1 hn with rfl | hn
      · exact hik
      · exact place_congr hfields n ▸ hi n hn

/-- **A field set is determined by what its names stand for.** -/
theorem new_of_values {defs : List FieldDef} {writes kvs : List (String × Value)}
    (hf : Fields.new defs writes = .ok f)
    (hkvs : ∀ p ∈ kvs, ∃ s, f.slot? p.1 = some s ∧ s.value = p.2 ∧
      s.value.convert s.field.type = .ok s.value)
    (hall : ∀ n s, f.slot? n = some s → n ∈ kvs.map (·.1)) : Fields.new defs kvs = .ok f := by
  unfold Fields.new at hf ⊢
  cases hm : defs.mapM initial with
  | error err => rw [hm] at hf; cases hf
  | ok slots =>
    rw [hm] at hf
    refine setAll_values kvs hkvs ((agreeOff_setAll writes hf).of_unknown fun n _ hn => ?_)
    cases hs : f.slot? n with
    | none => rfl
    | some s => exact absurd (hall n s hs) hn

/-- Converting a value to the type of its field changes nothing. -/
def Settled (f : Fields) : Prop := ∀ s ∈ f.slots, s.value.convert s.field.type = .ok s.value

theorem mem_of_slot? (h : f.slot? k = some s) : s ∈ f.slots ∧ s.field.name = k :=
  ⟨List.mem_reverse.1 (List.mem_of_find?_eq_some h), by simpa using List.find?_some h⟩

/-- The entries of a field set are what its names stand for. -/
theorem lookupKey_toEntries (f : Fields) (name : String) :
    lookupKey name f.toEntries = (f.slot? name).map (·.value) := by
  unfold toEntries
  rw [lookupKey_sortKeys, ← List.map_reverse]
  unfold lookupKey slot?
  rw [List.find?_map, Option.map_map]
  rfl

/-- What a name stands for is what all values have under it. -/
theorem get_eq_ok : f.get name = .ok v ↔ lookupKey name f.toEntries = some v := by
  rw [lookupKey_toEntries]
  unfold get
  cases f.slot? name <;> simp

/-- **A new field set with the entries of `f`** is `f`. -/
theorem new_of_entries {defs : List FieldDef} {writes kvs : List (String × Value)}
    (hf : Fields.new defs writes = .ok f) (hsettled : f.Settled) (hord : Ordered kvs)
    (hkvs : ∀ n, lookupKey n kvs = lookupKey n f.toEntries) : Fields.new defs kvs = .ok f := by
  refine new_of_values hf (fun p hp => ?_) fun n s hs => ?_
  · rw [mem_iff_lookupKey hord.nodup, hkvs, lookupKey_toEntries] at hp
    obtain ⟨s, hs, hv⟩ := Option.map_eq_some_iff.1 hp
    exact ⟨s, hs, hv, hsettled s (mem_of_slot? hs).1⟩
  · have hmem : lookupKey n kvs = some s.value := by
      rw [hkvs, lookupKey_toEntries, hs]
      rfl
    exact List.mem_map_of_mem (f := (·.1)) ((mem_iff_lookupKey hord.nodup).2 hmem)

/-- The field set has come about by writing to a new one of the architype. -/
def MadeFor (a : Architype) (f : Fields) : Prop :=
  ∃ writes, Fields.new a.effectiveFields writes = .ok f

theorem setAll_append (ws ws' : List (String × Value)) :
    ∀ f : Fields, f.setAll (ws ++ ws') = f.setAll ws >>= fun g => g.setAll ws' := by
  induction ws with
  | nil => exact fun f => rfl
  | cons kv ws ih =>
    intro f
    obtain ⟨k, v⟩ := kv
    simp only [List.cons_append, setAll]
    cases f.set k v with
    | error err => rfl
    | ok f₁ => exact ih f₁

/-- **Setting a field** is one more write. -/
theorem MadeFor.set {a : Architype} (hf : f.MadeFor a) (h : f.set k v = .ok g) : g.MadeFor a := by
  obtain ⟨writes, hw⟩ := hf
  refine ⟨writes ++ [(k, v)], ?_⟩
  unfold Fields.new at hw ⊢
  cases hm : a.effectiveFields.mapM initial with
  | error err => rw [hm] at hw; cases hw
  | ok slots =>
    rw [hm] at hw
    show Fields.setAll ⟨slots⟩ (writes ++ [(k, v)]) = .ok g
    rw [setAll_append, show Fields.setAll ⟨slots⟩ writes = .ok f from hw]
    show (do let f' ← f.set k v; f'.setAll []) = Except.ok g
    rw [h]
    rfl

end GraphWalk.Fields
