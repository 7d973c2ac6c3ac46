import GraphWalk.Module.Order
import Mathlib.Data.List.Perm.Basic
import Mathlib.Data.List.Nodup

/-!
# The order holds every module once

A set of modules with distinct names is put in order without loss: `order_perm`. The
search for the next module always finds one that is left, and removing it by its name
removes only that module.
-/

namespace GraphWalk

/-- No name repeats exactly if the names are distinct and new. -/
theorem firstRepeated_eq_none {ns : List String} :
    ∀ {seen : List String}, firstRepeated seen ns = none ↔ ns.Nodup ∧ ∀ n ∈ ns, n ∉ seen := by
  induction ns with
  | nil => intro seen; simp [firstRepeated]
  | cons n ns ih =>
    intro seen
    unfold firstRepeated
    by_cases hn : n ∈ seen
    · rw [if_pos (List.contains_iff_mem.2 hn)]
      simp [hn]
    · rw [if_neg (fun h => hn (List.contains_iff_mem.1 h)), ih]
      simp only [List.nodup_cons, List.mem_cons, not_or]
      constructor
      · rintro ⟨hnd, hseen⟩
        refine ⟨⟨fun hm => (hseen n hm).1 rfl, hnd⟩, fun k hk => ?_⟩
        rcases hk with rfl | hk
        · exact hn
        · exact (hseen k hk).2
      · rintro ⟨⟨hm, hnd⟩, hseen⟩
        refine ⟨hnd, fun k hk => ⟨?_, hseen k (Or.inr hk)⟩⟩
        rintro rfl
        exact hm hk

namespace ImportGraph

variable {g : ImportGraph} {mods left : List Module} {m : Module} {out : List String}

/-- A set of modules has a graph only if their names are distinct. -/
theorem ofModules_eq_ok {unknown : List Fault} (h : ofModules mods = .ok (g, unknown)) :
    g.modules = mods ∧ unknown = mods.flatMap g.unknownImports ∧
      (mods.map Module.name).Nodup := by
  unfold ofModules at h
  split at h
  · cases h
  · rename_i hn
    cases h
    exact ⟨rfl, rfl, (firstRepeated_eq_none.1 hn).1⟩

theorem smallest_mem (m : Module) (ms : List Module) : smallest m ms ∈ m :: ms := by
  induction ms generalizing m with
  | nil => simp [smallest]
  | cons m' ms ih =>
    unfold smallest
    split
    · exact List.mem_cons_of_mem m (ih m')
    · rcases List.mem_cons.1 (ih m) with h | h
      · rw [h]; exact List.mem_cons_self
      · exact List.mem_cons_of_mem m (List.mem_cons_of_mem m' h)

theorem next?_mem (h : g.next? out left = some m) : m ∈ left := by
  unfold next? at h
  split at h
  · rename_i m' ms hf
    cases h
    have hm := smallest_mem m' ms
    rw [← hf] at hm
    exact (List.mem_filter.1 hm).1
  · split at h
    · cases h
      exact smallest_mem _ _
    · cases h

/-- The search fails only when no module is left: a cycle is broken, not reported. -/
theorem next?_eq_none (h : g.next? out left = none) : left = [] := by
  unfold next? at h
  split at h
  · cases h
  · split at h
    · cases h
    · rfl

/-- Without a module's name, exactly that module is gone. -/
theorem perm_of_mem (hnd : (left.map Module.name).Nodup) (hm : m ∈ left) :
    (m :: left.filter (·.name != m.name)).Perm left := by
  induction left with
  | nil => cases hm
  | cons m' left ih =>
    rw [List.map_cons, List.nodup_cons] at hnd
    obtain ⟨hnot, hnd⟩ := hnd
    rcases List.mem_cons.1 hm with rfl | hm
    · have hkeep : left.filter (·.name != m.name) = left := by
        rw [List.filter_eq_self]
        intro m' hm'
        have hne : m'.name ≠ m.name := fun he => hnot (List.mem_map.2 ⟨m', hm', he⟩)
        simpa using hne
      simp [hkeep]
    · have hne : m'.name ≠ m.name := fun he => hnot (List.mem_map.2 ⟨m, hm, he.symm⟩)
      rw [List.filter_cons_of_pos (by simpa using hne)]
      exact (List.Perm.swap m' m _).trans ((ih hnd hm).cons m')

/-- With steps enough, every module that is left is put out once. -/
theorem orderFrom_perm (n : Nat) :
    ∀ {out : List String} {left : List Module}, left.length ≤ n →
      (left.map Module.name).Nodup → (g.orderFrom n out left).Perm left := by
  induction n with
  | zero =>
    intro out left hn _
    have : left = [] := List.length_eq_zero_iff.1 (by omega)
    subst this
    exact List.Perm.refl _
  | succ n ih =>
    intro out left hn hnd
    unfold orderFrom
    cases hnext : g.next? out left with
    | none => rw [next?_eq_none hnext]
    | some m =>
      -- one module is taken out, so one step less is enough for the rest
      have hperm := perm_of_mem hnd (next?_mem hnext)
      have hlen := hperm.length_eq
      rw [List.length_cons] at hlen
      have hnd' : ((left.filter (·.name != m.name)).map Module.name).Nodup :=
        hnd.sublist (List.filter_sublist.map _)
      exact ((ih (by omega) hnd').cons m).trans hperm

/-- **The order holds every module once.** -/
theorem order_perm (hnd : (g.modules.map Module.name).Nodup) : g.order.Perm g.modules :=
  orderFrom_perm g.modules.length (Nat.le_refl _) hnd

end ImportGraph

end GraphWalk
