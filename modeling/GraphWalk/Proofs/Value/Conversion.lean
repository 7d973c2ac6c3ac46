import GraphWalk.Proofs.List.Related
import GraphWalk.Value.Conversion
import Mathlib.Tactic

/-!
# What conversions keep

A conversion brings a value to a type, but makes no null of another value
(`isNull_convert`): nulls are passed on beside all that conversions do to known values,
and each of these is `Solid`. What is brought to a primitive type has that type
(`lands_of_isPrimitive`). A value that is known becomes a truth value, a text or a list where it
is brought to one (`bool_of_convert`, `string_of_convert`, `list_of_convert`).
-/

namespace GraphWalk

open TypeEngine

/-! ## Nulls -/

/-- A conversion that makes no null of another value. -/
def Conversion.Solid (conv : Conversion) : Prop :=
  ∀ v w, conv v = .ok w → v.isNull = false → w.isNull = false

variable {e : TypeEngine} {conv : Conversion} {safe : Bool} {src out : Ty} {v w : Value}
  {vs : List Value} {kvs : List (String × Value)} {parts : List Ty} {attrs : List (String × Ty)}

theorem list_listFrom (h : listFrom vs = .ok w) : ∃ elem items, w = .list elem items := by
  obtain ⟨elem, -, hw⟩ := of_bind_ok (of_mapError_ok h)
  cases hw
  exact ⟨_, _, rfl⟩

/-- What is made of parts is no null. -/
theorem isNull_listFrom (h : listFrom vs = .ok w) : w.isNull = false := by
  obtain ⟨elem, items, rfl⟩ := list_listFrom h
  rfl

theorem isNull_setFrom (h : setFrom vs = .ok w) : w.isNull = false := by
  obtain ⟨elem, -, hw⟩ := of_bind_ok (of_mapError_ok h)
  cases hw
  rfl

theorem isNull_mapOf (h : Value.mapOf kvs = .ok w) : w.isNull = false := by
  obtain ⟨elem, -, hw⟩ := of_bind_ok h
  cases hw
  rfl

theorem solid_identity : Conversion.Solid identityConversion := by
  intro v w h hv
  cases h
  exact hv

/-- Conversions between primitives. -/
theorem solid_primitive (h : primitiveConversion safe src out = some conv) : conv.Solid := by
  intro v w hc hv
  unfold primitiveConversion at h
  split at h
  all_goals try split at h
  all_goals cases h
  -- each of the conversions between primitives makes a value of its own, or passes the value on
  all_goals
    dsimp only at hc
    split at hc <;> (try split at hc) <;> (try split at hc) <;> cases hc <;>
      first | rfl | exact hv

/-! Each conversion to a collection or structure takes one shape of value apart, makes
a value of its own from the parts, and passes every other value on. -/

theorem solid_collectionToList : (collectionToList src out conv).Solid := by
  have hrun : ∀ {vs w}, collectionToList.run src out conv vs = .ok w → w.isNull = false := by
    intro vs w h
    obtain ⟨vs', -, hw⟩ := of_bind_ok h
    -- an empty list has its type given; any other takes it from its members
    split at hw
    · cases hw
      rfl
    · exact isNull_listFrom hw
  intro v w h hv
  unfold collectionToList at h
  split at h
  · exact hrun h
  · exact hrun h
  · split at h
    · exact hrun h
    · cases h
      rfl
  · cases h
    exact hv

theorem solid_collectionToSet : (collectionToSet src out conv).Solid := by
  intro v w h hv
  unfold collectionToSet at h
  split at h
  case h_3 =>
    cases h
    exact hv
  all_goals
    obtain ⟨vs', -, hw⟩ := of_bind_ok h
    split at hw
    · cases hw
      rfl
    · exact isNull_setFrom hw

theorem solid_mapToMap : (e.mapToMap src out conv).Solid := by
  intro v w h hv
  unfold mapToMap at h
  split at h
  case h_3 =>
    cases h
    exact hv
  all_goals
    obtain ⟨kvs', -, hw⟩ := of_bind_ok h
    split at hw
    · cases hw
      rfl
    · obtain ⟨kvs'', -, hw⟩ := of_bind_ok hw
      exact isNull_mapOf (of_mapError_ok hw)

theorem solid_tupleToList (h : e.tupleToList safe parts out = some conv) : conv.Solid := by
  intro v w hc hv
  unfold tupleToList at h
  split at h
  · cases h
    cases hc
    rfl
  · obtain ⟨elem, -, h⟩ := Option.bind_eq_some_iff.1 h
    obtain ⟨convs, -, h⟩ := Option.bind_eq_some_iff.1 h
    cases h
    dsimp only at hc
    split at hc
    · obtain ⟨vs', -, hc⟩ := of_bind_ok hc
      obtain ⟨vs'', -, hc⟩ := of_bind_ok hc
      exact isNull_listFrom hc
    · cases hc
      exact hv

theorem solid_tupleToSet (h : e.tupleToSet safe parts out = some conv) : conv.Solid := by
  intro v w hc hv
  unfold tupleToSet at h
  split at h
  · cases h
    cases hc
    rfl
  · obtain ⟨elem, -, h⟩ := Option.bind_eq_some_iff.1 h
    obtain ⟨convs, -, h⟩ := Option.bind_eq_some_iff.1 h
    cases h
    dsimp only at hc
    split at hc
    · obtain ⟨vs', -, hc⟩ := of_bind_ok hc
      exact isNull_setFrom hc
    · cases hc
      exact hv

theorem solid_objectToMap (h : e.objectToMap safe attrs out = some conv) : conv.Solid := by
  intro v w hc hv
  unfold objectToMap at h
  split at h
  · cases h
    cases hc
    rfl
  · obtain ⟨elem, -, h⟩ := Option.bind_eq_some_iff.1 h
    obtain ⟨convs, -, h⟩ := Option.bind_eq_some_iff.1 h
    cases h
    dsimp only at hc
    split at hc
    · obtain ⟨kvs', -, hc⟩ := of_bind_ok hc
      obtain ⟨kvs'', -, hc⟩ := of_bind_ok hc
      exact isNull_mapOf (of_mapError_ok hc)
    · cases hc
      exact hv

theorem solid_mapToObject (h : e.mapToObject src attrs = some conv) : conv.Solid := by
  intro v w hc hv
  obtain ⟨convs, -, h⟩ := Option.bind_eq_some_iff.1 h
  cases h
  dsimp only at hc
  split at hc
  · obtain ⟨kvs', -, hc⟩ := of_bind_ok hc
    split at hc
    · cases hc
    · cases hc
      rfl
  · cases hc
    exact hv

theorem solid_objectToObject {convs : List (String × Conversion)} :
    Conversion.Solid fun
      | .object kvs => do return .object (← convertEntries convs kvs)
      | v => .ok v := by
  intro v w h hv
  dsimp only at h
  split at h
  · obtain ⟨kvs', -, h⟩ := of_bind_ok h
    cases h
    rfl
  · cases h
    exact hv

theorem solid_tupleToTuple {convs : List Conversion} :
    Conversion.Solid fun
      | .tuple vs => do return .tuple (← convertItems convs vs)
      | v => .ok v := by
  intro v w h hv
  dsimp only at h
  split at h
  · obtain ⟨vs', -, h⟩ := of_bind_ok h
    cases h
    rfl
  · cases h
    exact hv

/-- **Whatever conversion the types allow**, it makes no null of another value. -/
theorem solid_step (h : e.step safe src out = some conv) : conv.Solid := by
  unfold step at h
  split at h
  case h_1 =>
    cases h
    exact solid_identity
  case h_2 =>
    split at h
    · cases h
    · cases h
      exact solid_identity
  case h_3 =>
    obtain ⟨convs, -, h⟩ := Option.bind_eq_some_iff.1 h
    cases h
    exact solid_objectToObject
  case h_4 =>
    split at h
    · cases h
    · obtain ⟨convs, -, h⟩ := Option.bind_eq_some_iff.1 h
      cases h
      exact solid_tupleToTuple
  case h_5 | h_6 =>
    obtain ⟨conv', -, rfl⟩ := Option.map_eq_some_iff.1 h
    exact solid_collectionToList
  case h_7 =>
    split at h
    · cases h
    · obtain ⟨conv', -, rfl⟩ := Option.map_eq_some_iff.1 h
      exact solid_collectionToSet
  case h_8 =>
    obtain ⟨conv', -, rfl⟩ := Option.map_eq_some_iff.1 h
    exact solid_collectionToSet
  case h_9 =>
    obtain ⟨conv', -, rfl⟩ := Option.map_eq_some_iff.1 h
    exact solid_mapToMap
  case h_10 => exact solid_tupleToList h
  case h_11 => exact solid_tupleToSet h
  case h_12 => exact solid_objectToMap h
  case h_13 =>
    split at h
    · cases h
    · exact solid_mapToObject h
  case h_14 => exact solid_primitive h

theorem isNull_ofHint (ty : Ty) (h : Hint) : (Value.ofHint ty h).isNull = false := by
  unfold Value.ofHint
  dsimp only
  split
  · rfl
  · split
    · split <;> rfl
    · rfl
  · split <;> rfl
  · split <;> rfl
  · split <;> rfl
  · rfl

theorem isNull_convertedHint (v : Value) : (convertedHint src out v).isNull = false := by
  unfold convertedHint
  dsimp only
  split
  · exact isNull_ofHint _ _
  · exact isNull_ofHint _ _
  · exact isNull_ofHint _ _
  · split
    · exact isNull_ofHint _ _
    · split
      · exact isNull_ofHint _ _
      · rfl

/-- Nulls stay nulls, and unknown values unknown. -/
theorem isNull_guarded (hs : conv.Solid) (h : e.guarded out conv v = .ok w) :
    w.isNull = v.isNull := by
  unfold guarded at h
  split at h
  · cases h
    rfl
  · split at h
    · cases h
      rfl
    · cases h
      exact isNull_convertedHint _
  · rename_i hnull hunknown
    have hv : v.isNull = false := by
      cases v with
      | null ty => exact (hnull ty rfl).elim
      | _ => rfl
    rw [hv, hs v w h hv]

/-- **A conversion** makes null of null only. -/
theorem isNull_convert {want : Ty} (h : v.convert want = .ok w) : w.isNull = v.isNull := by
  unfold Value.convert at h
  split at h
  · cases h
    rfl
  · split at h
    · rename_i conv hconv
      obtain ⟨conv', hstep, rfl⟩ := Option.map_eq_some_iff.1 hconv
      exact isNull_guarded (solid_step hstep) h
    · cases h

/-! ## Types -/

/-- What a value becomes at a type has that type. -/
def Lands (want : Ty) (v : Value) : Prop := ∀ w, v.convert want = .ok w → w.type = want

/-- A primitive type has nothing to fill in. -/
theorem fillDynamic_primitive (h : out.isPrimitive = true) : e.fillDynamic src out = out := by
  cases out <;> cases h <;> cases src <;> simp [fillDynamic]

theorem type_ofHint (ty : Ty) (hint : Hint) : (Value.ofHint ty hint).type = ty := by
  unfold Value.ofHint
  dsimp only
  split
  · rfl
  · split
    · split <;> rfl
    · rfl
  · split <;> rfl
  · split <;> rfl
  · split <;> rfl
  · rfl

/-- What an unknown value becomes has the type it is brought to. -/
theorem type_convertedHint (v : Value) : (convertedHint src out v).type = out := by
  unfold convertedHint
  dsimp only
  split
  · exact type_ofHint _ _
  · exact type_ofHint _ _
  · exact type_ofHint _ _
  · split
    · exact type_ofHint _ _
    · split
      · exact type_ofHint _ _
      · rfl

/-- Of the conversions to a primitive type only those between primitives reach a value
that is known. -/
theorem primitive_step (hout : out.isPrimitive = true) (hnull : v.isNull = false)
    (hknown : v.isKnown = true) (h : e.step safe v.type out = some conv) :
    primitiveConversion safe v.type out = some conv := by
  cases out <;> cases hout <;> cases v <;> cases hnull <;> cases hknown <;> exact h

/-- What such a conversion makes has the type. -/
theorem type_step (hout : out.isPrimitive = true) (hnull : v.isNull = false)
    (hknown : v.isKnown = true) (h : e.step safe v.type out = some conv)
    (hc : conv v = .ok w) : w.type = out := by
  have hprim := primitive_step hout hnull hknown h
  cases v <;> cases hnull <;> cases hknown <;> cases out <;> cases hout <;>
    try cases hprim
  -- what is left are the four conversions between primitives
  · cases hc
    rfl
  · cases hc
    rfl
  all_goals
    simp only [Value.type, primitiveConversion] at hprim
    split at hprim <;> cases hprim
    dsimp only at hc
  · split at hc <;> (try split at hc) <;> (try split at hc) <;> cases hc <;>
      first | rfl | (rename_i hother; exact (hother _ rfl).elim)
  · split at hc <;> cases hc
    rfl

/-- **What is brought to a primitive type** has that type. -/
theorem lands_of_isPrimitive {want : Ty} (h : want.isPrimitive = true) (v : Value) :
    Lands want v := by
  intro w hw
  unfold Value.convert at hw
  split at hw
  · rename_i heq
    cases hw
    exact eq_of_beq heq
  · split at hw
    · rename_i conv hconv
      obtain ⟨conv', hstep, rfl⟩ := Option.map_eq_some_iff.1 hconv
      -- no primitive type is left open, so nulls and unknown values get the type itself
      have hopen : want.isDynamic = false := by cases want <;> first | rfl | cases h
      unfold guarded at hw
      simp only [hopen, Bool.false_eq_true, if_false, fillDynamic_primitive h] at hw
      split at hw
      · cases hw
        rfl
      · cases hw
        exact type_convertedHint _
      · rename_i hnull hunknown
        refine type_step h ?_ ?_ hstep hw <;> cases v <;> first | rfl | simp_all
    · cases hw

/-! ## Known values -/

/-- **A value that is known** is converted by the step of its type, unless it has the type. -/
theorem convert_known {want : Ty} (hnull : v.isNull = false) (hknown : v.isKnown = true)
    (h : v.convert want = .ok w) : v.type = want ∧ w = v ∨
      ∃ (e : TypeEngine) (conv : Conversion), e.step false v.type want = some conv ∧
        conv v = .ok w := by
  unfold Value.convert at h
  split at h
  · rename_i heq
    cases h
    exact Or.inl ⟨eq_of_beq heq, rfl⟩
  · split at h
    · rename_i conv hconv
      obtain ⟨conv', hstep, rfl⟩ := Option.map_eq_some_iff.1 hconv
      refine Or.inr ⟨_, conv', hstep, ?_⟩
      cases v with
      | null ty => cases hnull
      | unknown ty hint => cases hknown
      | _ => exact h
    · cases h

/-- Primitives that are known are brought to ones that are. -/
theorem known_primitive (h : primitiveConversion safe src out = some conv)
    (hv : v.isKnown = true) (hc : conv v = .ok w) : w.isKnown = true := by
  unfold primitiveConversion at h
  split at h
  all_goals try split at h
  all_goals cases h
  all_goals
    dsimp only at hc
    split at hc <;> (try split at hc) <;> (try split at hc) <;> cases hc <;>
      first | rfl | exact hv

/-- What is known and brought to a primitive type is known. -/
theorem isKnown_convert {want : Ty} (h : want.isPrimitive = true) (hnull : v.isNull = false)
    (hknown : v.isKnown = true) (hc : v.convert want = .ok w) : w.isKnown = true := by
  rcases convert_known hnull hknown hc with ⟨-, rfl⟩ | ⟨e, conv, hstep, hw⟩
  · exact hknown
  · exact known_primitive (primitive_step h hnull hknown hstep) hknown hw

/-- **A known value brought to truth values** is one. -/
theorem bool_of_convert (hnull : v.isNull = false) (hknown : v.isKnown = true)
    (h : v.convert .bool = .ok w) : ∃ b, w = .bool b := by
  have htype := lands_of_isPrimitive rfl v w h
  have hnull' := (isNull_convert h).trans hnull
  have hknown' := isKnown_convert rfl hnull hknown h
  cases w <;> cases htype
  · cases hnull'
  · cases hknown'
  · exact ⟨_, rfl⟩

/-- **A known value brought to texts** is one. -/
theorem string_of_convert (hnull : v.isNull = false) (hknown : v.isKnown = true)
    (h : v.convert .string = .ok w) : ∃ t, w = .string t := by
  have htype := lands_of_isPrimitive rfl v w h
  have hnull' := (isNull_convert h).trans hnull
  have hknown' := isKnown_convert rfl hnull hknown h
  cases w <;> cases htype
  · cases hnull'
  · cases hknown'
  · exact ⟨_, rfl⟩

theorem whollyKnownList_eq_all (vs : List Value) :
    Value.whollyKnownList vs = vs.all Value.isWhollyKnown := by
  induction vs with
  | nil => rfl
  | cons v vs ih => rw [Value.whollyKnownList, ih, List.all_cons]

/-- What is made of the members of a collection is a list. -/
theorem list_run (h : collectionToList.run src out conv vs = .ok w) :
    ∃ elem items, w = .list elem items := by
  obtain ⟨vs', -, hw⟩ := of_bind_ok h
  split at hw
  · cases hw
    exact ⟨_, _, rfl⟩
  · exact list_listFrom hw

/-- So is what is made of the items of a tuple. -/
theorem list_tupleToList (h : e.tupleToList safe parts out = some conv)
    (hc : conv (.tuple vs) = .ok w) : ∃ elem items, w = .list elem items := by
  unfold tupleToList at h
  split at h
  · cases h
    cases hc
    exact ⟨_, _, rfl⟩
  · obtain ⟨elem, -, h⟩ := Option.bind_eq_some_iff.1 h
    obtain ⟨convs, -, h⟩ := Option.bind_eq_some_iff.1 h
    cases h
    obtain ⟨vs', -, hc⟩ := of_bind_ok hc
    obtain ⟨vs'', -, hc⟩ := of_bind_ok hc
    exact list_listFrom hc

/-- **A wholly known value brought to lists** is one. -/
theorem list_of_convert (hnull : v.isNull = false) (hknown : v.isWhollyKnown = true)
    (h : v.convert (.list out) = .ok w) : ∃ elem items, w = .list elem items := by
  have hk : v.isKnown = true := by cases v <;> first | rfl | cases hknown
  rcases convert_known hnull hk h with ⟨htype, rfl⟩ | ⟨e, conv, hstep, hw⟩
  · cases w <;> cases htype
    · cases hnull
    · cases hk
    · exact ⟨_, _, rfl⟩
  · cases v with
    | null | unknown | bool | number | string | map | object =>
      cases hnull <;> cases hk <;> cases hstep
    | list elem vs =>
      obtain ⟨conv', -, rfl⟩ := Option.map_eq_some_iff.1 hstep
      exact list_run hw
    | set elem vs =>
      obtain ⟨conv', -, rfl⟩ := Option.map_eq_some_iff.1 hstep
      unfold collectionToList at hw
      dsimp only at hw
      rw [Value.isWhollyKnown, whollyKnownList_eq_all] at hknown
      rw [if_pos (by rw [hknown, Bool.or_true])] at hw
      exact list_run hw
    | tuple vs => exact list_tupleToList hstep hw

end GraphWalk
