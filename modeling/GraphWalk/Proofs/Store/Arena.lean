import GraphWalk.Store.Arena
import Mathlib.Data.List.Nodup
import Mathlib.Tactic

/-!
# Arenas stay in order

* `insert_spec`: what an insertion does, in one statement: which slot it takes,
  what it leaves alone, and what becomes of the free list.
* `OK`: the free list holds exactly the empty slots, each once, and the items
  are counted right. Every operation keeps it.
* `Young n`: after `n` insertions there are at most `n` slots and no generation
  is beyond `n + 1`. As long as `n` stays below `2^32 - 1` no generation wraps.
* `Spent`: an index and a generation that were given out. They are never given
  out again (`not_spent_inserted`), whatever is removed in between.
-/

namespace GraphWalk

/-- Changing one element changes a count by that element only. -/
theorem countP_modify {α : Type} (p : α → Bool) (f : α → α) :
    ∀ (l : List α) (i : Nat) (x : α), l[i]? = some x →
      (l.modify i f).countP p + (if p x then 1 else 0) =
        l.countP p + (if p (f x) then 1 else 0) := by
  intro l
  induction l with
  | nil => intro i x h; simp at h
  | cons y l ih =>
    intro i x h
    cases i with
    | zero =>
      simp only [List.getElem?_cons_zero, Option.some.injEq] at h
      subst h
      simp only [List.modify_zero_cons, List.countP_cons]
      omega
    | succ i =>
      simp only [List.getElem?_cons_succ] at h
      have := ih i x h
      simp only [List.modify_succ_cons, List.countP_cons]
      omega

namespace Arena

variable {α : Type} {a : Arena α}

/-- `a'` is `a` with one more item: `x` in slot `i`, under generation `g`. -/
structure Inserted (a a' : Arena α) (i g : UInt32) (x : α) : Prop where
  slot : ∀ j, a'.slots[j]? = if j = i.toNat then some ⟨g, some x⟩ else a.slots[j]?
  vacant : a.slots[i.toNat]? = some ⟨g, none⟩ ∨ (a.slots.size = i.toNat ∧ g = 1)
  size_le : a'.slots.size ≤ max a.slots.size (i.toNat + 1)
  free : a'.free = a.free.erase i
  count : a'.slots.toList.countP (·.item.isSome) = a.slots.toList.countP (·.item.isSome) + 1
  live : a'.live = a.live + 1

/-- The free list holds exactly the empty slots, each once, and the items are
counted. -/
structure OK (a : Arena α) : Prop where
  size_le : a.slots.size ≤ UInt32.size
  free_nodup : a.free.Nodup
  mem_free : ∀ i : UInt32, i ∈ a.free ↔ ∃ slot, a.slots[i.toNat]? = some slot ∧ slot.item = none
  live : a.live = a.slots.toList.countP (·.item.isSome)

/-- What `n` insertions can lead to: at most `n` slots, and a slot that was filled
`m` times is of generation `m` while it is filled. -/
structure Young (n : Nat) (a : Arena α) : Prop where
  size_le : a.slots.size ≤ n
  gen_pos : ∀ (j : Nat) (slot : Slot α), a.slots[j]? = some slot → 0 < slot.gen.toNat
  gen_le : ∀ (j : Nat) (slot : Slot α), a.slots[j]? = some slot →
    slot.gen.toNat + (if slot.item.isSome then 1 else 0) ≤ n + 1

/-- There is an index for one more item: that of an empty slot, or a fresh one. -/
def Roomy (a : Arena α) : Prop := a.free = [] → a.slots.size < UInt32.size

/-- The items carry their own names: `name` of their index and generation. -/
def Named {β : Type} (name : UInt32 → UInt32 → β) (id : α → β) (a : Arena α) : Prop :=
  ∀ (j : Nat) (slot : Slot α) (x : α), a.slots[j]? = some slot → slot.item = some x →
    id x = name j.toUInt32 slot.gen

/-- The index and the generation were given out: the slot is that old and filled,
or older. -/
def Spent (a : Arena α) (i g : UInt32) : Prop :=
  ∃ slot, a.slots[i.toNat]? = some slot ∧ (g < slot.gen ∨ g = slot.gen ∧ slot.item.isSome = true)

theorem toNat_toUInt32 {j : Nat} (h : j < UInt32.size) : j.toUInt32.toNat = j := by
  simpa [UInt32.size] using h

theorem toNat_ne {i j : UInt32} (h : j ≠ i) : j.toNat ≠ i.toNat :=
  fun e => h (UInt32.toNat_inj.1 e)

theorem lt_size {j : Nat} {slot : Slot α} (h : a.slots[j]? = some slot) : j < a.slots.size := by
  obtain ⟨hj, -⟩ := Array.getElem?_eq_some_iff.1 h
  exact hj

/-! ## Lookups -/

theorem get?_eq_some {i g : UInt32} {x : α} :
    a.get? i g = some x ↔ a.slots[i.toNat]? = some ⟨g, some x⟩ ∧ g ≠ 0 := by
  unfold get?
  constructor
  · intro h
    split at h
    · rename_i slot hs
      split at h
      · rename_i hg
        obtain ⟨rfl, h0⟩ := hg
        exact ⟨by rw [hs, ← h], h0⟩
      · cases h
    · cases h
  · rintro ⟨h, h0⟩
    rw [h]
    simp [h0]

/-- Under one index there is one item. -/
theorem get?_unique {i g g' : UInt32} {x y : α} (hx : a.get? i g = some x)
    (hy : a.get? i g' = some y) : x = y ∧ g = g' := by
  have hs := (get?_eq_some.1 hx).1
  rw [(get?_eq_some.1 hy).1] at hs
  cases hs
  exact ⟨rfl, rfl⟩

/-- An update reaches the index under every generation. -/
theorem get?_update (i : UInt32) (f : α → α) (j g : UInt32) :
    (a.update i f).get? j g = if j = i then (a.get? j g).map f else a.get? j g := by
  unfold get? update
  simp only [Array.getElem?_modify]
  by_cases hij : j = i
  · subst hij
    rw [if_pos rfl, if_pos rfl]
    cases a.slots[j.toNat]? with
    | none => rfl
    | some slot =>
      simp only [Option.map_some]
      split <;> rfl
  · rw [if_neg (toNat_ne hij).symm, if_neg hij]

/-- After a removal the index names nothing of the old generation. -/
theorem get?_remove {i g : UInt32} {x : α} (h : a.get? i g = some x) (j g' : UInt32) :
    (a.remove i).get? j g' = if j = i ∧ g' = g then none else a.get? j g' := by
  obtain ⟨hs, h0⟩ := get?_eq_some.1 h
  unfold get? remove
  simp only [Array.getElem?_modify]
  by_cases hij : j = i
  · subst hij
    by_cases hg : g = g' <;> simp [hs, hg]
  · simp [(toNat_ne hij).symm, hij]

theorem get?_inserted {a' : Arena α} {i g : UInt32} {x : α} (h : Inserted a a' i g x) (hg : g ≠ 0)
    (j g' : UInt32) : a'.get? j g' = if j = i ∧ g' = g then some x else a.get? j g' := by
  unfold get?
  rw [h.slot]
  by_cases hij : j = i
  · subst hij
    by_cases hgg : g = g'
    · subst hgg; simp [hg]
    · rcases h.vacant with hv | ⟨hv, -⟩
      · simp [Ne.symm hgg, hgg, hv]
      · simp [Ne.symm hgg, hgg, Array.getElem?_eq_none hv.le]
  · simp [toNat_ne hij, hij]

/-- The index and the generation that an insertion takes named nothing before. -/
theorem get?_vacant {a' : Arena α} {i g : UInt32} {x : α} (h : Inserted a a' i g x) :
    a.get? i g = none := by
  unfold get?
  rcases h.vacant with hv | ⟨hv, -⟩
  · simp [hv]
  · simp [Array.getElem?_eq_none hv.le]

/-! ## Insertion -/

theorem Young.roomy {n : Nat} (h : a.Young n) (hn : n < UInt32.size) : a.Roomy :=
  fun _ => h.size_le.trans_lt hn

/-- If no slot is empty, the items fill the slots, so there is room for fewer of them. -/
theorem OK.roomy (h : a.OK) (hlive : a.live < UInt32.size) : a.Roomy := by
  intro hf
  have hfull : a.slots.toList.countP (·.item.isSome) = a.slots.toList.length := by
    rw [List.countP_eq_length]
    intro slot hm
    obtain ⟨j, hj⟩ := List.mem_iff_getElem?.1 hm
    rw [Array.getElem?_toList] at hj
    have hi : j.toUInt32.toNat = j := toNat_toUInt32 (lt_of_lt_of_le (lt_size hj) h.size_le)
    have hnone : ¬ slot.item = none := by
      intro hn
      have : j.toUInt32 ∈ a.free := (h.mem_free _).2 ⟨slot, by rw [hi]; exact hj, hn⟩
      rw [hf] at this
      cases this
    rwa [Option.isSome_iff_ne_none]
  rw [h.live, hfull, Array.length_toList] at hlive
  exact hlive

/-- **One insertion.** It fills the slot freed last, or a fresh one, under the
slot's generation, and touches no other slot. -/
theorem insert_spec (h : a.OK) (hroom : a.Roomy) (make : UInt32 → UInt32 → α) :
    ∃ i g, (a.insert make).2 = make i g ∧ Inserted a (a.insert make).1 i g (make i g) := by
  unfold insert reserve genOf
  cases hf : a.free with
  | cons i rest =>
    -- the slot freed last is empty, so filling it adds one item
    obtain ⟨⟨g, item⟩, hs, hi⟩ := (h.mem_free i).1 (by rw [hf]; exact List.mem_cons_self)
    simp only at hi
    subst hi
    refine ⟨i, g, by simp [hs], ?_, Or.inl hs, ?_, by simp [fill, hf], ?_, rfl⟩
    · intro j
      simp only [fill, hs, Array.getElem?_modify, eq_comm (a := j)]
      split
      · rename_i hj; subst hj; simp [hs]
      · rfl
    · simp [fill]
    · have := countP_modify (fun s : Slot α => s.item.isSome)
        (fun s => { s with item := some (make i g) }) a.slots.toList i.toNat ⟨g, none⟩
        (by rw [Array.getElem?_toList]; exact hs)
      simpa [fill, hs] using this
  | nil =>
    -- no slot is empty, so the arena grows; its new slot is of generation 1
    have hi : a.slots.size.toUInt32.toNat = a.slots.size := toNat_toUInt32 (hroom hf)
    set i := a.slots.size.toUInt32 with hidef
    have hpush : (a.slots.push ⟨1, none⟩)[i.toNat]? = some ⟨1, none⟩ := by
      rw [hi, Array.getElem?_push_size]
    refine ⟨i, 1, by simp [hi], ?_, Or.inr ⟨hi.symm, rfl⟩, ?_, ?_, ?_, rfl⟩
    · intro j
      simp only [fill, hpush, Array.getElem?_modify, eq_comm (a := j)]
      split
      · rename_i hj; subst hj; rw [hpush]; rfl
      · rename_i hj
        rw [Array.getElem?_push, if_neg (by omega)]
    · simp [fill, hi]
    · simp [fill, hf]
    · have := countP_modify (fun s : Slot α => s.item.isSome)
        (fun s => { s with item := some (make i 1) }) (a.slots.push ⟨1, none⟩).toList i.toNat
        ⟨1, none⟩
        (by rw [Array.getElem?_toList]; exact hpush)
      simpa [fill, hpush, hf] using this

theorem live_insert (make : UInt32 → UInt32 → α) : (a.insert make).1.live = a.live + 1 := by
  show a.reserve.1.live + 1 = a.live + 1
  unfold reserve
  split <;> rfl

theorem OK.inserted (h : a.OK) {a' : Arena α} {i g : UInt32} {x : α} (hx : Inserted a a' i g x) :
    a'.OK := by
  refine ⟨?_, ?_, ?_, ?_⟩
  · have := hx.size_le
    have := h.size_le
    have := i.toNat_lt_size
    omega
  · rw [hx.free]; exact h.free_nodup.erase i
  · intro k
    rw [hx.free, h.free_nodup.mem_erase_iff, hx.slot, h.mem_free]
    by_cases hk : k = i
    · subst hk; simp
    · simp [hk, toNat_ne hk]
  · rw [hx.live, hx.count, h.live]

theorem OK.update (h : a.OK) (i : UInt32) (f : α → α) : (a.update i f).OK := by
  refine ⟨by simpa [Arena.update] using h.size_le, h.free_nodup, ?_, ?_⟩
  · intro k
    rw [show (a.update i f).free = a.free from rfl, h.mem_free]
    simp only [Arena.update, Array.getElem?_modify]
    split
    · cases a.slots[k.toNat]? <;> simp
    · rfl
  · rw [show (a.update i f).live = a.live from rfl, h.live]
    simp only [Arena.update, Array.toList_modify]
    cases hs : a.slots[i.toNat]? with
    | none =>
      rw [List.modify_eq_self]
      simpa using hs
    | some slot =>
      have := countP_modify (fun s : Slot α => s.item.isSome)
        (fun s => { s with item := s.item.map f }) a.slots.toList i.toNat slot (by simpa using hs)
      simp only [Option.isSome_map] at this
      omega

/-- Removing an item puts its slot on the free list, where it was not before. -/
theorem OK.remove (h : a.OK) {i g : UInt32} {x : α} (hx : a.get? i g = some x) :
    (a.remove i).OK := by
  obtain ⟨hs, -⟩ := get?_eq_some.1 hx
  have hfree : i ∉ a.free := by
    rw [h.mem_free, hs]; simp
  refine ⟨by simpa [Arena.remove] using h.size_le, List.nodup_cons.2 ⟨hfree, h.free_nodup⟩, ?_, ?_⟩
  · intro k
    simp only [Arena.remove, List.mem_cons, Array.getElem?_modify, h.mem_free]
    by_cases hk : k = i
    · subst hk; simp [hs]
    · simp [hk, (toNat_ne hk).symm]
  · have := countP_modify (fun s : Slot α => s.item.isSome) (fun s => ⟨s.gen + 1, none⟩)
      a.slots.toList i.toNat ⟨g, some x⟩ (by simpa using hs)
    simp only [Option.isSome_some, Option.isSome_none, if_true, Bool.false_eq_true,
      if_false] at this
    simp only [Arena.remove, Array.toList_modify]
    have := h.live
    omega

/-! ## Generations -/

theorem Young.mono {m n : Nat} (h : a.Young m) (hmn : m ≤ n) : a.Young n :=
  ⟨h.size_le.trans hmn, h.gen_pos, fun j slot hs => (h.gen_le j slot hs).trans (by omega)⟩

/-- A generation that is given out is never zero. -/
theorem Young.gen_ne_zero {n : Nat} (h : a.Young n) {a' : Arena α} {i g : UInt32} {x : α}
    (hx : Inserted a a' i g x) : g ≠ 0 := by
  rcases hx.vacant with hv | ⟨-, rfl⟩
  · rintro rfl
    exact absurd (h.gen_pos _ _ hv) (by simp)
  · decide

theorem Young.inserted {n : Nat} (h : a.Young n) {a' : Arena α} {i g : UInt32} {x : α}
    (hx : Inserted a a' i g x) : a'.Young (n + 1) := by
  have hsize := h.size_le
  -- the slot taken was empty or is new, so one more item in it is one more insertion
  have hg : 0 < g.toNat ∧ g.toNat ≤ n + 1 ∧ i.toNat ≤ n := by
    rcases hx.vacant with hv | ⟨hv, rfl⟩
    · have h1 := h.gen_pos _ _ hv
      have h2 := h.gen_le _ _ hv
      have h3 := lt_size hv
      simp only [Option.isSome_none, Bool.false_eq_true, if_false] at h2
      exact ⟨h1, by omega, by omega⟩
    · exact ⟨by decide, by simp, by omega⟩
  refine ⟨?_, ?_, ?_⟩
  · have := hx.size_le
    omega
  · intro j slot hs
    rw [hx.slot] at hs
    split at hs
    · cases hs; exact hg.1
    · exact h.gen_pos j slot hs
  · intro j slot hs
    rw [hx.slot] at hs
    split at hs
    · cases hs
      simp only [Option.isSome_some, if_true]
      omega
    · exact (h.gen_le j slot hs).trans (by omega)

/-- A slot after an update is an old one, maybe with its item changed. -/
theorem slot_update {i : UInt32} {f : α → α} {j : Nat} {slot : Slot α}
    (h : (a.update i f).slots[j]? = some slot) :
    ∃ old, a.slots[j]? = some old ∧ slot.gen = old.gen ∧
      (slot.item = old.item ∨ slot.item = old.item.map f) := by
  simp only [Arena.update, Array.getElem?_modify] at h
  split at h
  · obtain ⟨old, ho, rfl⟩ := Option.map_eq_some_iff.1 h
    exact ⟨old, ho, rfl, Or.inr rfl⟩
  · exact ⟨slot, h, rfl, Or.inl rfl⟩

theorem Young.update {n : Nat} (h : a.Young n) (i : UInt32) (f : α → α) :
    (a.update i f).Young n := by
  refine ⟨by simpa [Arena.update] using h.size_le, ?_, ?_⟩
  · intro j slot hs
    obtain ⟨old, ho, hg, -⟩ := slot_update hs
    rw [hg]; exact h.gen_pos j old ho
  · intro j slot hs
    obtain ⟨old, ho, hg, hi⟩ := slot_update hs
    have := h.gen_le j old ho
    rcases hi with hi | hi <;> simpa [hg, hi] using this

theorem succ_toNat {g : UInt32} (h : g.toNat + 1 < UInt32.size) : (g + 1).toNat = g.toNat + 1 := by
  rw [UInt32.toNat_add]
  exact Nat.mod_eq_of_lt h

theorem Young.remove {n : Nat} (h : a.Young n) (hn : n < UInt32.size - 1) {i g : UInt32} {x : α}
    (hx : a.get? i g = some x) : (a.remove i).Young n := by
  obtain ⟨hs, -⟩ := get?_eq_some.1 hx
  have hle := h.gen_le _ _ hs
  simp only [Option.isSome_some, if_true] at hle
  -- filling the slot counted as one insertion, so its generation does not wrap
  have hg : (g + 1).toNat = g.toNat + 1 := succ_toNat (by omega)
  refine ⟨by simpa [Arena.remove] using h.size_le, ?_, ?_⟩
  · intro j slot hj
    simp only [Arena.remove, Array.getElem?_modify] at hj
    split at hj
    · rename_i hij; subst hij
      rw [hs] at hj; cases hj
      simp only; omega
    · exact h.gen_pos j slot hj
  · intro j slot hj
    simp only [Arena.remove, Array.getElem?_modify] at hj
    split at hj
    · rename_i hij; subst hij
      rw [hs] at hj; cases hj
      simp only [Option.isSome_none, Bool.false_eq_true, if_false]; omega
    · exact h.gen_le j slot hj

/-! ## Names -/

section Names

variable {β : Type} {name : UInt32 → UInt32 → β} {id : α → β}

theorem Named.inserted (h : a.Named name id) {a' : Arena α} {i g : UInt32} {x : α}
    (hx : Inserted a a' i g x) (hid : id x = name i g) : a'.Named name id := by
  intro j slot y hs hy
  rw [hx.slot] at hs
  split at hs
  · rename_i hj
    cases hs; cases hy
    rw [hid, hj]
    congr 1
    exact (UInt32.ofNat_toNat).symm
  · exact h j slot y hs hy

theorem Named.update (h : a.Named name id) (i : UInt32) {f : α → α} (hf : ∀ x, id (f x) = id x) :
    (a.update i f).Named name id := by
  intro j slot x hs hx
  obtain ⟨old, ho, hg, hi⟩ := slot_update hs
  rw [hg]
  rcases hi with hi | hi
  · exact h j old x ho (hi ▸ hx)
  · rw [hi] at hx
    obtain ⟨y, hy, rfl⟩ := Option.map_eq_some_iff.1 hx
    rw [hf]; exact h j old y ho hy

theorem Named.remove (h : a.Named name id) (i : UInt32) : (a.remove i).Named name id := by
  intro j slot x hs hx
  simp only [Arena.remove, Array.getElem?_modify] at hs
  split at hs
  · obtain ⟨old, -, rfl⟩ := Option.map_eq_some_iff.1 hs
    cases hx
  · exact h j slot x hs hx

/-- An item found under an index and a generation is named by them. -/
theorem Named.get? (h : a.Named name id) {i g : UInt32} {x : α} (hx : a.get? i g = some x) :
    id x = name i g := by
  have := h _ _ x (get?_eq_some.1 hx).1 rfl
  rwa [show i.toNat.toUInt32 = i from UInt32.ofNat_toNat] at this

end Names

/-! ## What was given out -/

/-- **An insertion gives out what was never given out.** -/
theorem not_spent_inserted {a' : Arena α} {i g : UInt32} {x : α} (h : Inserted a a' i g x) :
    ¬ a.Spent i g := by
  rintro ⟨slot, hs, hg⟩
  rcases h.vacant with hv | ⟨hv, -⟩
  · rw [hv] at hs
    cases hs
    simp at hg
  · have := lt_size hs
    omega

theorem spent_inserted {a' : Arena α} {i g : UInt32} {x : α} (h : Inserted a a' i g x) :
    a'.Spent i g :=
  ⟨⟨g, some x⟩, by rw [h.slot, if_pos rfl], Or.inr ⟨rfl, rfl⟩⟩

theorem Spent.inserted {j k : UInt32} (hs : a.Spent j k) {a' : Arena α} {i g : UInt32} {x : α}
    (h : Inserted a a' i g x) : a'.Spent j k := by
  obtain ⟨slot, hj, hk⟩ := hs
  by_cases hij : j = i
  · subst hij
    refine ⟨⟨g, some x⟩, by rw [h.slot, if_pos rfl], ?_⟩
    rcases h.vacant with hv | ⟨hv, -⟩
    · rw [hv] at hj
      cases hj
      simp only [Option.isSome_none, Bool.false_eq_true, and_false, or_false] at hk
      exact Or.inl hk
    · have := lt_size hj
      omega
  · exact ⟨slot, by rw [h.slot, if_neg (toNat_ne hij)]; exact hj, hk⟩

theorem Spent.update {j k : UInt32} (hs : a.Spent j k) (i : UInt32) (f : α → α) :
    (a.update i f).Spent j k := by
  obtain ⟨slot, hj, hk⟩ := hs
  by_cases hij : i = j
  · subst hij
    refine ⟨{ slot with item := slot.item.map f },
      by simp [Arena.update, Array.getElem?_modify, hj], ?_⟩
    simpa using hk
  · refine ⟨slot, ?_, hk⟩
    simp only [Arena.update, Array.getElem?_modify]
    rw [if_neg (toNat_ne hij), hj]

/-- A removal counts the generation up, which spends the old one for good. -/
theorem Spent.remove {n : Nat} (hy : a.Young n) (hn : n < UInt32.size - 1) {j k : UInt32}
    (hs : a.Spent j k) {i g : UInt32} {x : α} (hx : a.get? i g = some x) :
    (a.remove i).Spent j k := by
  obtain ⟨slot, hj, hk⟩ := hs
  by_cases hij : i = j
  · subst hij
    obtain ⟨hi, -⟩ := get?_eq_some.1 hx
    rw [hi] at hj
    cases hj
    have hle := hy.gen_le _ _ hi
    simp only [Option.isSome_some, if_true] at hle
    refine ⟨⟨g + 1, none⟩, by simp [Arena.remove, Array.getElem?_modify, hi], Or.inl ?_⟩
    have hg : (g + 1).toNat = g.toNat + 1 := succ_toNat (by omega)
    rw [UInt32.lt_iff_toNat_lt, hg]
    rcases hk with hk | ⟨rfl, -⟩
    · have := UInt32.lt_iff_toNat_lt.1 hk
      simp only at this
      omega
    · exact Nat.lt_succ_self _
  · refine ⟨slot, ?_, hk⟩
    simp only [Arena.remove, Array.getElem?_modify]
    rw [if_neg (toNat_ne hij), hj]

/-- The items are those of the filled slots. -/
theorem mem_items {x : α} :
    x ∈ a.items ↔ ∃ (j : Nat) (slot : Slot α), a.slots[j]? = some slot ∧ slot.item = some x := by
  unfold items
  rw [List.mem_filterMap]
  constructor
  · rintro ⟨slot, hm, hx⟩
    obtain ⟨j, hj⟩ := List.mem_iff_getElem?.1 hm
    exact ⟨j, slot, by simpa using hj, hx⟩
  · rintro ⟨j, slot, hj, hx⟩
    exact ⟨slot, List.mem_of_getElem? (i := j) (by simpa using hj), hx⟩

/-- Items that carry the names of their slots are all of different names. -/
theorem nodup_items {β : Type} {name : UInt32 → UInt32 → β} {id : α → β} (h : a.Named name id)
    (hsize : a.slots.size ≤ UInt32.size) (hinj : ∀ {i g j k}, name i g = name j k → i = j) :
    (a.items.map id).Nodup := by
  unfold items
  rw [List.nodup_iff_pairwise_ne, List.pairwise_map, List.pairwise_filterMap,
    List.pairwise_iff_getElem]
  intro i j hi hj hij x hx y hy heq
  rw [Array.length_toList] at hi hj
  rw [h i _ x (Array.getElem?_eq_getElem hi) (by simpa using hx),
    h j _ y (Array.getElem?_eq_getElem hj) (by simpa using hy)] at heq
  -- equal names would be names of one slot
  have := congrArg UInt32.toNat (hinj heq)
  rw [toNat_toUInt32 (hi.trans_le hsize), toNat_toUInt32 (hj.trans_le hsize)] at this
  omega

/-- The free list as plain numbers. -/
theorem OK.mem_free_toNat (h : a.OK) (i : Nat) :
    i ∈ a.free.map UInt32.toNat ↔ ∃ slot, a.slots[i]? = some slot ∧ slot.item = none := by
  rw [List.mem_map]
  constructor
  · rintro ⟨j, hj, rfl⟩
    exact (h.mem_free j).1 hj
  · rintro ⟨slot, hs, hi⟩
    have hj : i.toUInt32.toNat = i := toNat_toUInt32 (lt_of_lt_of_le (lt_size hs) h.size_le)
    exact ⟨i.toUInt32, (h.mem_free _).2 ⟨slot, by rw [hj]; exact hs, hi⟩, hj⟩

theorem length_items (h : a.OK) : a.items.length = a.live := by
  unfold items
  rw [List.length_filterMap_eq_countP, h.live]

end Arena

end GraphWalk
