import GraphWalk.Value.Type
import Mathlib.Data.String.Basic
import Mathlib.Tactic

/-!
# Lists of pairs that are ordered by key

`insertKey` keeps the keys in their order (`Ordered.insertKey`), and what is found
afterwards is what was put in (`lookupKey_insertKey`). Sorting a list keeps the last
value of each key (`lookupKey_sortKeys`), so that sorting what is sorted finds the same
again (`Ordered.lookupKey_sortKeys`). Where keys are distinct, what is found does not depend
on the order of the pairs (`lookupKey_perm`), and lists with the same keys that are in order go
together pair by pair (`forall₂_of_ordered`).
-/

namespace GraphWalk

variable {α : Type} {l : List (String × α)} {k : String} {v : α}

/-- The keys rise, so each occurs once. -/
def Ordered (l : List (String × α)) : Prop := l.Pairwise fun a b => a.1 < b.1

theorem lookupKey_cons (k k' : String) (v : α) (l : List (String × α)) :
    lookupKey k' ((k, v) :: l) = if k = k' then some v else lookupKey k' l := by
  unfold lookupKey
  rw [List.find?_cons]
  by_cases h : k = k' <;> simp [h]

theorem lookupKey_append (k : String) (l l' : List (String × α)) :
    lookupKey k (l ++ l') = (lookupKey k l).or (lookupKey k l') := by
  unfold lookupKey
  rw [List.find?_append]
  cases l.find? (·.1 = k) <;> rfl

theorem mem_of_lookupKey (h : lookupKey k l = some v) : (k, v) ∈ l := by
  obtain ⟨⟨k', v'⟩, hf, rfl⟩ := Option.map_eq_some_iff.1 h
  have hk : k' = k := by simpa using List.find?_some hf
  exact hk ▸ List.mem_of_find?_eq_some hf

/-- Nothing is found just under what is no key. -/
theorem lookupKey_eq_none : lookupKey k l = none ↔ k ∉ l.map (·.1) := by
  unfold lookupKey
  simp only [Option.map_eq_none_iff, List.find?_eq_none, decide_eq_true_eq, List.mem_map,
    not_exists, not_and]

/-- Something is found under every key. -/
theorem exists_lookupKey (h : k ∈ l.map (·.1)) : ∃ v, lookupKey k l = some v := by
  rw [← Option.ne_none_iff_exists', Ne, lookupKey_eq_none, not_not]
  exact h

/-- **What was put in is found**, and nothing else changes. -/
theorem lookupKey_insertKey (k : String) (v : α) (k' : String) (l : List (String × α)) :
    lookupKey k' (insertKey k v l) = if k = k' then some v else lookupKey k' l := by
  induction l with
  | nil => exact lookupKey_cons k k' v []
  | cons p l ih =>
    obtain ⟨k₁, v₁⟩ := p
    unfold insertKey
    split
    · exact lookupKey_cons k k' v _
    · split
      · rename_i heq
        subst heq
        rw [lookupKey_cons, lookupKey_cons]
        split <;> rfl
      · rename_i hne
        rw [lookupKey_cons, lookupKey_cons, ih]
        by_cases h : k₁ = k'
        · subst h
          rw [if_pos rfl, if_neg hne, if_pos rfl]
        · rw [if_neg h, if_neg h]

theorem mem_insertKey {p : String × α} (h : p ∈ insertKey k v l) : p = (k, v) ∨ p ∈ l := by
  induction l with
  | nil => simpa [insertKey] using h
  | cons q l ih =>
    obtain ⟨k₁, v₁⟩ := q
    unfold insertKey at h
    split at h
    · simpa using h
    · split at h
      · rcases List.mem_cons.1 h with rfl | h
        · exact Or.inl rfl
        · exact Or.inr (List.mem_cons_of_mem _ h)
      · rcases List.mem_cons.1 h with rfl | h
        · exact Or.inr List.mem_cons_self
        · exact (ih h).imp id (List.mem_cons_of_mem _)

/-- **Insertion keeps the order.** -/
theorem Ordered.insertKey (h : Ordered l) (k : String) (v : α) : Ordered (insertKey k v l) := by
  induction l with
  | nil => exact List.pairwise_singleton _ _
  | cons q l ih =>
    obtain ⟨k₁, v₁⟩ := q
    obtain ⟨hhead, htail⟩ := List.pairwise_cons.1 h
    unfold GraphWalk.insertKey
    split
    · rename_i hlt
      refine List.pairwise_cons.2 ⟨fun p hp => ?_, h⟩
      rcases List.mem_cons.1 hp with rfl | hp
      · exact hlt
      · exact lt_trans hlt (hhead p hp)
    · rename_i hlt
      split
      · rename_i heq
        subst heq
        exact List.pairwise_cons.2 ⟨hhead, htail⟩
      · rename_i hne
        refine List.pairwise_cons.2 ⟨fun p hp => ?_, ih htail⟩
        rcases mem_insertKey hp with rfl | hp
        · exact lt_of_le_of_ne (not_lt.1 hlt) (Ne.symm hne)
        · exact hhead p hp

theorem Ordered.nodup (h : Ordered l) : (l.map (·.1)).Nodup := by
  rw [List.nodup_iff_pairwise_ne, List.pairwise_map]
  exact h.imp fun hlt => ne_of_lt hlt

/-- Where each key occurs once, what stands there is what is found. -/
theorem mem_iff_lookupKey (h : (l.map (·.1)).Nodup) : (k, v) ∈ l ↔ lookupKey k l = some v := by
  induction l with
  | nil => simp [lookupKey]
  | cons q l ih =>
    obtain ⟨k₁, v₁⟩ := q
    obtain ⟨hhead, htail⟩ := List.nodup_cons.1 h
    rw [List.mem_cons, lookupKey_cons, Prod.mk.injEq]
    split
    · rename_i heq
      subst heq
      refine ⟨fun hm => ?_, fun hv => Or.inl ⟨rfl, (Option.some.inj hv).symm⟩⟩
      rcases hm with ⟨-, rfl⟩ | hm
      · rfl
      · exact absurd (List.mem_map_of_mem (f := (·.1)) hm) hhead
    · rename_i hne
      rw [← ih htail]
      exact ⟨fun hm => hm.resolve_left fun hk => hne hk.1.symm, Or.inr⟩

theorem sortKeys_append (l : List (String × α)) (k : String) (v : α) :
    sortKeys (l ++ [(k, v)]) = insertKey k v (sortKeys l) := by
  simp [sortKeys]

theorem ordered_sortKeys (l : List (String × α)) : Ordered (sortKeys l) := by
  induction l using List.reverseRecOn with
  | nil => exact List.Pairwise.nil
  | append_singleton l p ih => rw [sortKeys_append]; exact ih.insertKey _ _

/-- **Sorting keeps the last value of each key.** -/
theorem lookupKey_sortKeys (k : String) (l : List (String × α)) :
    lookupKey k (sortKeys l) = lookupKey k l.reverse := by
  induction l using List.reverseRecOn with
  | nil => rfl
  | append_singleton l p ih =>
    rw [sortKeys_append, lookupKey_insertKey, List.reverse_concat, lookupKey_cons, ih]

/-- Sorting what is sorted finds the same again. -/
theorem Ordered.lookupKey_sortKeys (h : Ordered l) (k : String) :
    lookupKey k (sortKeys l) = lookupKey k l := by
  have hrev : (l.reverse.map (·.1)).Nodup := by
    rw [List.map_reverse, List.nodup_reverse]
    exact h.nodup
  refine Option.ext fun v => ?_
  rw [GraphWalk.lookupKey_sortKeys, ← mem_iff_lookupKey hrev, List.mem_reverse,
    mem_iff_lookupKey h.nodup]

/-- What is found from the end is the last value of its key. -/
theorem lookupKey_reverse_eq_some_iff : lookupKey k l.reverse = some v ↔
    ∃ before after, l = before ++ (k, v) :: after ∧ ∀ p ∈ after, p.1 ≠ k := by
  unfold lookupKey
  simp only [Option.map_eq_some_iff, List.find?_eq_some_iff_append, Bool.not_eq_true',
    decide_eq_true_eq, decide_eq_false_iff_not]
  constructor
  · rintro ⟨⟨k', v'⟩, ⟨rfl, as, bs, hl, has⟩, rfl⟩
    refine ⟨bs.reverse, as.reverse, ?_, fun p hp => has p (List.mem_reverse.1 hp)⟩
    rw [← List.reverse_reverse l, hl]
    simp
  · rintro ⟨before, after, rfl, hafter⟩
    refine ⟨(k, v), ⟨rfl, after.reverse, before.reverse, by simp, fun p hp => ?_⟩, rfl⟩
    exact hafter p (List.mem_reverse.1 hp)

/-- **What is left of a list that is sorted** is the last pair of each key. -/
theorem mem_sortKeys_iff : (k, v) ∈ sortKeys l ↔
    ∃ before after, l = before ++ (k, v) :: after ∧ ∀ p ∈ after, p.1 ≠ k := by
  rw [mem_iff_lookupKey (ordered_sortKeys l).nodup, lookupKey_sortKeys,
    lookupKey_reverse_eq_some_iff]

/-- No key is lost. -/
theorem mem_keys_sortKeys : k ∈ (sortKeys l).map (·.1) ↔ k ∈ l.map (·.1) := by
  rw [← not_iff_not, ← lookupKey_eq_none, ← lookupKey_eq_none, lookupKey_sortKeys,
    lookupKey_eq_none, lookupKey_eq_none, List.map_reverse, List.mem_reverse]

/-- Lists that are in order are the same when they have the same members. -/
theorem Ordered.ext {l' : List (String × α)} (h : Ordered l) (h' : Ordered l')
    (hmem : ∀ p, p ∈ l ↔ p ∈ l') : l = l' := by
  have hperm : l.Perm l' :=
    (List.perm_ext_iff_of_nodup h.nodup.of_map h'.nodup.of_map).2 hmem
  exact hperm.eq_of_pairwise (fun _ _ _ _ hlt hgt => absurd hlt (lt_asymm hgt)) h h'

/-- Sorting leaves alone what is sorted. -/
theorem Ordered.sortKeys_eq (h : Ordered l) : sortKeys l = l := by
  refine (ordered_sortKeys l).ext h fun ⟨k, v⟩ => ?_
  rw [mem_iff_lookupKey (ordered_sortKeys l).nodup, h.lookupKey_sortKeys, mem_iff_lookupKey h.nodup]

/-- Under one key there is one value. -/
theorem Ordered.eq_of_mem (h : Ordered l) {a b : α} (ha : (k, a) ∈ l) (hb : (k, b) ∈ l) :
    a = b := by
  rw [mem_iff_lookupKey h.nodup] at ha hb
  exact Option.some.inj (ha.symm.trans hb)

/-- **Where keys are distinct**, what is found from the end does not depend on the order. -/
theorem lookupKey_perm {l' : List (String × α)} (hnd : (l.map (·.1)).Nodup) (hperm : l'.Perm l)
    (name : String) : lookupKey name l'.reverse = lookupKey name l.reverse := by
  have hrev : (l.reverse.map (·.1)).Nodup := by
    rw [List.map_reverse, List.nodup_reverse]
    exact hnd
  have hperm' : l'.reverse.Perm l.reverse :=
    (List.reverse_perm l').trans (hperm.trans (List.reverse_perm l).symm)
  have hrev' : (l'.reverse.map (·.1)).Nodup := (hperm'.map _).nodup_iff.2 hrev
  refine Option.ext fun v => ?_
  rw [← mem_iff_lookupKey hrev', ← mem_iff_lookupKey hrev, hperm'.mem_iff]

/-- **Where the keys are in order on both sides**, entries under one key stand at one place. -/
theorem forall₂_of_ordered {β : Type} {R : α → β → Prop} {l' : List (String × β)} (h : Ordered l)
    (h' : Ordered l') (hkeys : ∀ k, k ∈ l.map (·.1) ↔ k ∈ l'.map (·.1))
    (hR : ∀ k a b, (k, a) ∈ l → (k, b) ∈ l' → R a b) :
    List.Forall₂ (fun p q => p.1 = q.1 ∧ R p.2 q.2) l l' := by
  have hperm : (l.map (·.1)).Perm (l'.map (·.1)) :=
    (List.perm_ext_iff_of_nodup h.nodup h'.nodup).2 hkeys
  have hsame : l.map (·.1) = l'.map (·.1) :=
    hperm.eq_of_pairwise (fun a b _ _ (hlt : a < b) hgt => absurd hlt (lt_asymm hgt))
      (List.pairwise_map.2 h) (List.pairwise_map.2 h')
  have hall : List.Forall₂ (fun p q => p.1 = q.1) l l' := by
    rw [← List.forall₂_eq_eq_eq, List.forall₂_map_left_iff, List.forall₂_map_right_iff] at hsame
    exact hsame
  refine List.forall₂_iff_zip.2 ⟨hall.length_eq, fun {p q} hpq => ?_⟩
  have hkey : p.1 = q.1 := (List.forall₂_iff_zip.1 hall).2 hpq
  obtain ⟨hp, hq⟩ := List.of_mem_zip hpq
  have hq' : (p.1, q.2) ∈ l' := by
    rw [hkey]
    exact hq
  exact ⟨hkey, hR p.1 p.2 q.2 hp hq'⟩

end GraphWalk
