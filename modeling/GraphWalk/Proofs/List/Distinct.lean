import Mathlib.Data.List.Induction
import Mathlib.Data.List.Nodup
import Mathlib.Data.List.Pairwise

/-!
# Lists without repeats

What is left of a list when repeats are dropped, each member at the place where it is first;
names without repeats, put in order; and what is found by keys without repeats.
-/

namespace GraphWalk

section Repeats

variable {α : Type} [DecidableEq α] {xs : List α}

theorem eraseDups_concat (x : α) (xs : List α) :
    (xs ++ [x]).eraseDups = if x ∈ xs then xs.eraseDups else xs.eraseDups ++ [x] := by
  rw [List.eraseDups_append]
  unfold List.removeAll
  by_cases hx : x ∈ xs
  · simp [hx]
  · simp [hx, List.eraseDups_cons]

theorem nodup_eraseDups (xs : List α) : xs.eraseDups.Nodup := by
  induction xs using List.reverseRecOn with
  | nil => exact List.nodup_nil
  | append_singleton xs x ih =>
    rw [eraseDups_concat]
    split
    · exact ih
    · rename_i hx
      rw [← List.concat_eq_append, List.nodup_concat, List.mem_eraseDups]
      exact ⟨hx, ih⟩

theorem eraseDups_of_nodup (h : xs.Nodup) : xs.eraseDups = xs := by
  induction xs using List.reverseRecOn with
  | nil => rfl
  | append_singleton xs x ih =>
    rw [← List.concat_eq_append, List.nodup_concat] at h
    obtain ⟨hx, hxs⟩ := h
    rw [eraseDups_concat, if_neg hx, ih hxs]

end Repeats

/-- **Distinct names** that are sorted stand strictly one before the other. -/
theorem pairwise_lt_mergeSort {names : List String} (h : names.Nodup) :
    (names.mergeSort (· ≤ ·)).Pairwise (· < ·) := by
  have hle : (names.mergeSort (· ≤ ·)).Pairwise fun a b => decide (a ≤ b) = true := by
    refine List.pairwise_mergeSort (fun a b c hab hbc => ?_) (fun a b => ?_) names
    · exact decide_eq_true (String.le_trans (of_decide_eq_true hab) (of_decide_eq_true hbc))
    · rw [← Bool.decide_or]
      exact decide_eq_true (String.le_total a b)
  have hne := (List.mergeSort_perm names (· ≤ ·)).nodup_iff.2 h
  exact (hle.and hne).imp fun ⟨hab, hne⟩ => Std.lt_of_le_of_ne (of_decide_eq_true hab) hne

/-! ## Distinct keys -/

/-- With distinct keys, a member is found by its key. -/
theorem find?_eq_some_of_nodup {α β : Type} [DecidableEq β] {f : α → β} {k : β} {x : α}
    {xs : List α} (hnd : (xs.map f).Nodup) :
    xs.find? (fun y => decide (f y = k)) = some x ↔ x ∈ xs ∧ f x = k := by
  constructor
  · intro h
    exact ⟨List.mem_of_find?_eq_some h, by simpa using List.find?_some h⟩
  · rintro ⟨hm, hk⟩
    cases h : xs.find? (fun y => decide (f y = k)) with
    | none =>
      have := List.find?_eq_none.1 h x hm
      simp [hk] at this
    | some y =>
      have hy : f y = k := by simpa using List.find?_some h
      rw [List.inj_on_of_nodup_map hnd (List.mem_of_find?_eq_some h) hm (hy.trans hk.symm)]

/-- What was not found by its key can be appended. -/
theorem nodup_append_of_find?_eq_none {α β : Type} [DecidableEq β] {f : α → β} {x : α}
    {xs : List α} (hnd : (xs.map f).Nodup)
    (hnone : xs.find? (fun y => decide (f y = f x)) = none) : ((xs ++ [x]).map f).Nodup := by
  rw [List.map_append]
  refine List.nodup_append.2 ⟨hnd, List.nodup_singleton _, ?_⟩
  intro k hk k' hk'
  rw [List.map_singleton, List.mem_singleton] at hk'
  rintro rfl
  obtain ⟨y, hy, hyk⟩ := List.mem_map.1 hk
  have := List.find?_eq_none.1 hnone y hy
  simp [hyk, hk'] at this

end GraphWalk
