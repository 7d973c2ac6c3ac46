import GraphWalk.Proofs.List.Related
import GraphWalk.Proofs.Value.Keys
import GraphWalk.Value.Conversion
import Mathlib.Tactic

/-!
# The shapes of types

A type has the shape of another (`Ty.conforms`) if it is that type but for places that the other
leaves open. A type that leaves nothing open has its own shape only (`Ty.eq_of_conforms`), and a
type that is filled in from another keeps its shape (`conforms_fillDynamic`).

Where values become the elements of one collection, they are brought to a type that they have in
common. `settles_typeEngine`: **types that are all the same have just that type in common.** So a
collection keeps the shape that its elements have, unless they are of a type that is left open in
part: a list of objects with two attributes of any type is brought to a list of maps, where the
attributes of one element are maps and those of another objects. `Ty.Definite` are the types
without such elements.
-/

namespace GraphWalk

open TypeEngine

namespace Ty

/-! ## Types that have the shape of others -/

/-- Every type has the shape of one that is left open. -/
theorem conforms_dynamic (a : Ty) : a.conforms .dynamic = true := by
  cases a <;> rfl

theorem conformsAttrs_iff : ∀ {as bs : List (String × Ty)}, conformsAttrs as bs = true ↔
    List.Forall₂ (fun a b => a.1 = b.1 ∧ a.2.conforms b.2 = true) as bs
  | [], [] | [], _ :: _ | _ :: _, [] => by simp [conformsAttrs]
  | a :: as, b :: bs => by simp [conformsAttrs, conformsAttrs_iff]

mutual

/-- A type has its own shape. -/
theorem conforms_refl : ∀ t : Ty, t.conforms t = true
  | .dynamic | .bool | .number | .string => rfl
  | .list t | .set t | .map t => conforms_refl t
  | .object attrs => conformsAttrs_refl attrs
  | .tuple ts => conformsList_refl ts

theorem conformsList_refl : ∀ ts : List Ty, conformsList ts ts = true
  | [] => rfl
  | t :: ts => by simp [conformsList, conforms_refl t, conformsList_refl ts]

theorem conformsAttrs_refl : ∀ attrs : List (String × Ty), conformsAttrs attrs attrs = true
  | [] => rfl
  | (k, t) :: attrs => by simp [conformsAttrs, conforms_refl t, conformsAttrs_refl attrs]

end

mutual

/-- **A type that leaves nothing open** has its own shape only. -/
theorem eq_of_conforms : ∀ {a b : Ty}, a.conforms b = true → b.hasDynamic = false → a = b
  | a, .dynamic, _, hb => by cases hb
  | a, .bool, h, _ | a, .number, h, _ | a, .string, h, _ => by cases a <;> first | rfl | cases h
  | a, .list b, h, hb => by
    cases a with
    | list a => rw [eq_of_conforms (a := a) (b := b) h hb]
    | _ => cases h
  | a, .set b, h, hb => by
    cases a with
    | set a => rw [eq_of_conforms (a := a) (b := b) h hb]
    | _ => cases h
  | a, .map b, h, hb => by
    cases a with
    | map a => rw [eq_of_conforms (a := a) (b := b) h hb]
    | _ => cases h
  | a, .object bs, h, hb => by
    cases a with
    | object as =>
      have heq : as = bs := eq_of_conformsAttrs (show conformsAttrs as bs = true from h) hb
      rw [heq]
    | _ => cases h
  | a, .tuple bs, h, hb => by
    cases a with
    | tuple as =>
      have heq : as = bs := eq_of_conformsList (show conformsList as bs = true from h) hb
      rw [heq]
    | _ => cases h

theorem eq_of_conformsList : ∀ {as bs : List Ty},
    conformsList as bs = true → hasDynamicList bs = false → as = bs
  | [], [], _, _ => rfl
  | [], _ :: _, h, _ | _ :: _, [], h, _ => by cases h
  | a :: as, b :: bs, h, hb => by
    simp only [conformsList, Bool.and_eq_true] at h
    simp only [hasDynamicList, Bool.or_eq_false_iff] at hb
    rw [eq_of_conforms h.1 hb.1, eq_of_conformsList h.2 hb.2]

theorem eq_of_conformsAttrs : ∀ {as bs : List (String × Ty)},
    conformsAttrs as bs = true → hasDynamicAttrs bs = false → as = bs
  | [], [], _, _ => rfl
  | [], _ :: _, h, _ | _ :: _, [], h, _ => by cases h
  | (k, a) :: as, (k', b) :: bs, h, hb => by
    simp only [conformsAttrs, Bool.and_eq_true, beq_iff_eq] at h
    simp only [hasDynamicAttrs, Bool.or_eq_false_iff] at hb
    rw [h.1.1, eq_of_conforms h.1.2 hb.1, eq_of_conformsAttrs h.2 hb.2]

end

end Ty

/-! ## Types that are filled in -/

section FillDynamic

variable {e : TypeEngine} {t : Ty}

/-- An element type keeps its shape, whatever elements it is filled in from. -/
theorem conforms_fromElems (src : Ty) (h : ∀ s, (e.fillDynamic s t).conforms t = true) :
    (fillDynamic.fromElems e src t).conforms t = true := by
  unfold fillDynamic.fromElems
  split
  · exact h _
  · exact h _
  · split
    · exact h _
    · exact Ty.conforms_refl t
  · exact Ty.conforms_refl t

theorem conforms_fromEntries (src : Ty) (h : ∀ s, (e.fillDynamic s t).conforms t = true) :
    (fillDynamic.fromEntries e src t).conforms t = true := by
  unfold fillDynamic.fromEntries
  split
  · exact h _
  · split
    · exact h _
    · exact Ty.conforms_refl t
  · exact Ty.conforms_refl t

mutual

/-- **A type that is filled in** from another keeps its shape. -/
theorem conforms_fillDynamic (e : TypeEngine) :
    ∀ src out : Ty, (e.fillDynamic src out).conforms out = true
  | _, .dynamic => Ty.conforms_dynamic _
  | src, .bool | src, .number | src, .string => by cases src <;> simp [fillDynamic, Ty.conforms]
  | src, .list t | src, .set t => by
    have hgo := conforms_fromElems src fun s => conforms_fillDynamic e s t
    cases src <;> simp only [fillDynamic] <;> first | exact Ty.conforms_refl _ | exact hgo
  | src, .map t => by
    have hgo := conforms_fromEntries src fun s => conforms_fillDynamic e s t
    cases src <;> simp only [fillDynamic] <;> first | exact Ty.conforms_refl _ | exact hgo
  | src, .object attrs => by
    have hgo := conforms_fillAttrs e src attrs
    cases src <;> simp only [fillDynamic] <;> first | exact Ty.conforms_refl _ | exact hgo
  | src, .tuple ts => by
    cases src with
    | tuple ss =>
      simp only [fillDynamic]
      exact conforms_fillList e ss ts
    | _ =>
      simp only [fillDynamic]
      exact Ty.conforms_refl _

theorem conforms_fillAttrs (e : TypeEngine) (src : Ty) : ∀ attrs : List (String × Ty),
    Ty.conformsAttrs (fillDynamic.fillAttrs e src attrs) attrs = true
  | [] => by simp [fillDynamic.fillAttrs, Ty.conformsAttrs]
  | (k, t) :: attrs => by
    rw [fillDynamic.fillAttrs.eq_def]
    simp only [Ty.conformsAttrs, beq_self_eq_true, Bool.true_and, Bool.and_eq_true]
    refine ⟨?_, conforms_fillAttrs e src attrs⟩
    split
    · exact conforms_fillDynamic e _ t
    · split
      · exact conforms_fillDynamic e _ t
      · exact Ty.conforms_refl t
    · exact Ty.conforms_refl t

theorem conforms_fillList (e : TypeEngine) : ∀ ss ts : List Ty,
    Ty.conformsList (fillDynamic.fillList e ss ts) ts = true
  | _, [] => by simp [fillDynamic.fillList, Ty.conformsList]
  | [], t :: ts => by simp [fillDynamic.fillList, Ty.conformsList_refl]
  | s :: ss, t :: ts => by
    simp [fillDynamic.fillList, Ty.conformsList, conforms_fillDynamic e s t,
      conforms_fillList e ss ts]

end

end FillDynamic

/-! ## Elements of one type -/

/-- Nothing has to be made alike below a place that is left open: the elements of a collection are
of any type, or of one that leaves nothing open. The attributes of an object are in the order of
their names. -/
inductive Ty.Definite : Ty → Prop
  | dynamic : Definite .dynamic
  | bool : Definite .bool
  | number : Definite .number
  | string : Definite .string
  | list {t : Ty} : t = .dynamic ∨ t.hasDynamic = false → t.Definite → Definite (.list t)
  | set {t : Ty} : t = .dynamic ∨ t.hasDynamic = false → t.Definite → Definite (.set t)
  | map {t : Ty} : t = .dynamic ∨ t.hasDynamic = false → t.Definite → Definite (.map t)
  | object {attrs : List (String × Ty)} : Ordered attrs → (∀ p ∈ attrs, p.2.Definite) →
    Definite (.object attrs)
  | tuple {ts : List Ty} : (∀ t ∈ ts, t.Definite) → Definite (.tuple ts)

namespace Ty

/-- What is to be shown of a type that is left open altogether or not at all. -/
theorem conforms_of_open {t want : Ty} (hopen : want = .dynamic ∨ want.hasDynamic = false)
    (h : want.hasDynamic = false → t.conforms want = true) : t.conforms want = true := by
  rcases hopen with rfl | hclosed
  · exact conforms_dynamic t
  · exact h hclosed

theorem hasDynamic_of_mem {t : Ty} {ts : List Ty} (h : hasDynamicList ts = false) (ht : t ∈ ts) :
    t.hasDynamic = false := by
  induction ts with
  | nil => cases ht
  | cons s ts ih =>
    simp only [hasDynamicList, Bool.or_eq_false_iff] at h
    rcases List.mem_cons.1 ht with rfl | ht
    · exact h.1
    · exact ih h.2 ht

theorem hasDynamic_of_mem_attrs {p : String × Ty} {attrs : List (String × Ty)}
    (h : hasDynamicAttrs attrs = false) (hp : p ∈ attrs) : p.2.hasDynamic = false := by
  induction attrs with
  | nil => cases hp
  | cons q attrs ih =>
    obtain ⟨k, s⟩ := q
    simp only [hasDynamicAttrs, Bool.or_eq_false_iff] at h
    rcases List.mem_cons.1 hp with rfl | hp
    · exact h.1
    · exact ih h.2 hp

end Ty

/-! ## What types have in common -/

/-- What types that are all `t` have in common is `t`. -/
def TypeEngine.Settles (e : TypeEngine) : Prop :=
  ∀ (safe : Bool) (n : ℕ) (t u : Ty), t.Definite → t.hasDynamic = false →
    e.unify safe (List.replicate n t) = some u → u = t

section Unify

variable {e : TypeEngine} {safe : Bool} {t u : Ty} {tys : List Ty} {n : ℕ}

/-- What is reached is the type that is asked for. -/
theorem eq_of_reachable {out : Ty} (h : e.reachable safe tys out = some u) : u = out := by
  unfold reachable at h
  split at h
  · exact (Option.some.inj h).symm
  · cases h

/-- A preferred type is one of the given ones. -/
theorem mem_of_general (h : e.general safe tys = some u) : u ∈ tys := by
  obtain ⟨s, hs, hu⟩ := List.exists_of_findSome?_eq_some h
  obtain ⟨i, -, hi⟩ := List.mem_filterMap.1 hs
  rw [eq_of_reachable hu]
  exact List.mem_of_getElem? hi

/-- Types that are all the same reach that type. -/
theorem reachable_self (n : ℕ) : e.reachable safe (List.replicate n t) t = some t := by
  have hall : (List.replicate n t).all (fun s => (e.convTo safe t s).isSome) = true := by
    rw [List.all_eq_true]
    intro s hs
    rw [List.eq_of_mem_replicate hs]
    simp [convTo]
  unfold reachable
  rw [if_pos hall]

/-- The same collection type, over and over: the element types are the same too. -/
theorem unifyElems_same (he : e.Settles) {wrap : Ty → Ty} (hwrap : (wrap t).elem? = some t)
    (ht : t.Definite) (hclosed : t.hasDynamic = false)
    (h : e.unifyElems safe wrap (List.replicate n (wrap t)) = some u) : u = wrap t := by
  obtain ⟨elem, helem, h⟩ := Option.bind_eq_some_iff.1 h
  have htypes : elemTypes (List.replicate n (wrap t)) = List.replicate n t := by
    unfold elemTypes
    rw [List.filterMap_replicate, hwrap]
  rw [htypes] at helem
  rw [eq_of_reachable h, he safe n t elem ht hclosed helem]

/-- The same object type, over and over: so is the type of each attribute. -/
theorem unifyObjects_same (he : e.Settles) {attrs : List (String × Ty)} (hord : Ordered attrs)
    (hdef : ∀ p ∈ attrs, p.2.Definite) (hclosed : Ty.hasDynamicAttrs attrs = false)
    (h : e.unifyObjects safe (List.replicate (n + 1) (.object attrs)) = some u) :
    u = .object attrs := by
  unfold unifyObjects at h
  rw [List.replicate_succ] at h
  simp only at h
  rw [← List.replicate_succ, if_pos (by simp)] at h
  obtain ⟨attrs', hattrs', h⟩ := Option.bind_eq_some_iff.1 h
  have heq : attrs' = attrs := by
    have hall := forall₂_of_mapM_some hattrs'
    rw [attrsOf, List.forall₂_map_left_iff] at hall
    have hsame : List.Forall₂ Eq attrs attrs' := by
      refine List.forall₂_iff_zip.2 ⟨hall.length_eq, fun {p q} hpq => ?_⟩
      have hp : p ∈ attrs := (List.of_mem_zip hpq).1
      -- the types under this name, one from each object, are all the same
      have hstep := (List.forall₂_iff_zip.1 hall).2 hpq
      obtain ⟨across, hacross, hstep⟩ := Option.bind_eq_some_iff.1 hstep
      obtain ⟨s, hs, hstep⟩ := Option.bind_eq_some_iff.1 hstep
      have hfound : lookupKey p.1 (attrsOf (.object attrs)) = some p.2 :=
        (mem_iff_lookupKey hord.nodup).1 hp
      rw [mapM_replicate (g := fun t => lookupKey p.1 (attrsOf t)) hfound] at hacross
      rw [← Option.some.inj hacross] at hs
      have hsp := he safe (n + 1) p.2 s (hdef p hp) (Ty.hasDynamic_of_mem_attrs hclosed hp) hs
      cases hstep
      rw [hsp]
    exact (List.forall₂_eq_eq_eq ▸ hsame : attrs = attrs').symm
  rw [heq, reachable_self] at h
  cases h
  rfl

/-- The same tuple type, over and over: so is the type at each place. -/
theorem unifyTuples_same (he : e.Settles) {ts : List Ty}
    (hdef : ∀ t ∈ ts, t.Definite) (hclosed : Ty.hasDynamicList ts = false)
    (h : e.unifyTuples safe (List.replicate (n + 1) (.tuple ts)) = some u) :
    u = .tuple ts := by
  unfold unifyTuples at h
  rw [List.replicate_succ] at h
  simp only at h
  rw [← List.replicate_succ, if_pos (by simp)] at h
  obtain ⟨items, hitems, h⟩ := Option.bind_eq_some_iff.1 h
  have heq : items = ts := by
    have hall := forall₂_of_mapM_some hitems
    have hlen : items.length = ts.length := by
      rw [← hall.length_eq, List.length_range]
      rfl
    -- place by place: the types there, one from each tuple, are all the same
    refine List.ext_getElem hlen fun i hi hi' => ?_
    have hstep := hall.get (by rw [hall.length_eq]; exact hi) hi
    simp only [List.get_eq_getElem, List.getElem_range] at hstep
    obtain ⟨across, hacross, hs⟩ := Option.bind_eq_some_iff.1 hstep
    have hfound : (itemsOf (.tuple ts))[i]? = some ts[i] := List.getElem?_eq_getElem hi'
    rw [mapM_replicate (g := fun t => (itemsOf t)[i]?) hfound] at hacross
    cases hacross
    exact he safe (n + 1) _ _ (hdef _ (List.getElem_mem hi'))
      (Ty.hasDynamic_of_mem hclosed (List.getElem_mem hi')) hs
  rw [heq, reachable_self] at h
  cases h
  rfl

/-- **One step down**: by the form of the type, its parts are compared by the engine for them. -/
theorem unifyStep_same (he : e.Settles) (ht : t.Definite) (hclosed : t.hasDynamic = false)
    (h : e.unifyStep safe (List.replicate n t) = some u) : u = t := by
  cases n with
  | zero =>
    have hgen : e.general safe [] = some u := h
    cases mem_of_general hgen
  | succ n =>
    have hgeneral : e.general safe (List.replicate (n + 1) t) = some u → u = t := fun h =>
      List.eq_of_mem_replicate (mem_of_general h)
    unfold unifyStep at h
    simp only [List.any_replicate, List.all_replicate, Nat.add_one_ne_zero, if_false] at h
    cases ht with
    | dynamic => cases hclosed
    | bool | number | string => exact hgeneral h
    | list _ ht => exact unifyElems_same he rfl ht hclosed h
    | set _ ht => exact unifyElems_same he rfl ht hclosed h
    | map _ ht => exact unifyElems_same he rfl ht hclosed h
    | object hord hdef => exact unifyObjects_same he hord hdef hclosed h
    | tuple hdef => exact unifyTuples_same he hdef hclosed h

/-- **Types that are all the same have just that type in common**: the engine for one depth needs
it of the parts, which the engine for the next smaller one compares. -/
theorem settles_typeEngine (n : ℕ) : (typeEngine n).Settles := by
  induction n with
  | zero =>
    intro safe m t u _ _ h
    cases h
  | succ n ih =>
    intro safe m t u ht hclosed h
    exact unifyStep_same (e := ⟨(typeEngine (n + 1)).conversion, (typeEngine n).unify⟩) ih ht
      hclosed h

end Unify

/-! ## The types of parts -/

theorem lookupKey_typeAttrs (k : String) (kvs : List (String × Value)) :
    lookupKey k (Value.typeAttrs kvs) = (lookupKey k kvs).map Value.type := by
  induction kvs with
  | nil => rfl
  | cons p kvs ih =>
    obtain ⟨k', v⟩ := p
    rw [Value.typeAttrs, lookupKey_cons, lookupKey_cons, ih]
    split <;> rfl

theorem Value.typeList_eq_map : ∀ vs : List Value, Value.typeList vs = vs.map Value.type
  | [] => rfl
  | v :: vs => by rw [Value.typeList, Value.typeList_eq_map vs, List.map_cons]

theorem Value.typeAttrs_eq_map : ∀ kvs : List (String × Value),
    Value.typeAttrs kvs = kvs.map fun p => (p.1, p.2.type)
  | [] => rfl
  | (k, v) :: kvs => by rw [Value.typeAttrs, Value.typeAttrs_eq_map kvs, List.map_cons]

end GraphWalk
