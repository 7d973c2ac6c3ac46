import GraphWalk.Proofs.List.Distinct
import GraphWalk.Proofs.Module.Imports
import Mathlib.Data.List.Chain
import Mathlib.Data.List.Pairwise
import Mathlib.Data.List.TakeWhile

/-!
# The way on which a module is met

The search for cycles goes from modules to their importers, by name. `Met done path` says that it
comes along `path`, the last module first, and what it is done with by then: all that is reached
from what was tried before, off what was done with already and off the way. A way settles what is
done with (`Met.done_unique`), and no module is met on two ways (`Met.unique`).

A module is `Found` if it is on a cycle of modules that are not done with when it is met. Where
the search comes back to its way, all since then is found (`Met.found`).
-/

namespace GraphWalk

namespace ImportGraph

open Relation

variable {g : ImportGraph} {V W done done' : Set String} {path path' l l' : List String}
  {ds : List String} {a m n n' d d' x y : String}

/-! ## Steps to importers -/

/-- A step from a module to one that imports it, where both are off `W`. -/
def StepsOff (g : ImportGraph) (W : Set String) (n n' : String) : Prop :=
  g.Imports n' n ∧ n ∉ W ∧ n' ∉ W

/-- Off `W` one comes from `n` to `x`. -/
def Reaches (g : ImportGraph) (W : Set String) (n x : String) : Prop :=
  n ∉ W ∧ ReflTransGen (g.StepsOff W) n x

theorem mem_dependents : n' ∈ g.dependents n ↔ g.Imports n' n := by
  unfold dependents Imports
  rw [List.mem_mergeSort, List.mem_map]
  refine exists_congr fun m => ?_
  rw [List.mem_filter, List.contains_iff_mem]
  tauto

theorem stepsOff_le (h : V ⊆ W) : g.StepsOff W ≤ g.StepsOff V :=
  fun _ _ hstep => ⟨hstep.1, fun hm => hstep.2.1 (h hm), fun hm => hstep.2.2 (h hm)⟩

/-- A cycle off more is a cycle off less. -/
theorem cycle_anti (h : V ⊆ W) (hcycle : TransGen (g.StepsOff W) m m) :
    TransGen (g.StepsOff V) m m :=
  TransGen.mono (stepsOff_le h) _ _ hcycle

/-- A cycle of importers is one of imports. -/
theorem imports_of_stepsOff (h : TransGen (g.StepsOff W) m m) : TransGen g.Imports m m := by
  rw [← transGen_swap]
  exact TransGen.mono (fun _ _ hstep => hstep.1) _ _ h

namespace Reaches

theorem refl (h : n ∉ W) : g.Reaches W n n := ⟨h, .refl⟩

theorem tail (h : g.Reaches W n x) (hstep : g.StepsOff W x y) : g.Reaches W n y :=
  ⟨h.1, h.2.tail hstep⟩

theorem head (hstep : g.StepsOff W n d) (h : g.Reaches W d x) : g.Reaches W n x :=
  ⟨hstep.2.1, h.2.head hstep⟩

theorem anti (hVW : V ⊆ W) (h : g.Reaches W n x) : g.Reaches V n x :=
  ⟨fun hm => h.1 (hVW hm), ReflTransGen.mono (stepsOff_le hVW) _ _ h.2⟩

theorem not_mem (h : g.Reaches W n x) : x ∉ W := by
  rcases ReflTransGen.cases_tail h.2 with rfl | ⟨y, -, hstep⟩
  · exact h.1
  · exact hstep.2.2

end Reaches

/-- What is reached from a module is the module, or it is reached from an importer off it. -/
theorem reaches_iff : g.Reaches W n x ↔
    n ∉ W ∧ (x = n ∨ ∃ d, g.Imports d n ∧ g.Reaches (insert n W) d x) := by
  constructor
  · rintro ⟨hn, hreach⟩
    refine ⟨hn, ?_⟩
    -- of the way only what comes after the last time at `n` counts
    induction hreach with
    | refl => exact Or.inl rfl
    | @tail y z _ hstep ih =>
      by_cases hz : z = n
      · exact Or.inl hz
      have hz' : z ∉ insert n W := fun hm => (Set.mem_insert_iff.1 hm).elim hz hstep.2.2
      rcases ih with rfl | ⟨d, hd, hreach⟩
      · exact Or.inr ⟨z, hstep.1, .refl hz'⟩
      · exact Or.inr ⟨d, hd, hreach.tail ⟨hstep.1, hreach.not_mem, hz'⟩⟩
  · rintro ⟨hn, rfl | ⟨d, hd, hreach⟩⟩
    · exact .refl hn
    · have hreach' := hreach.anti (Set.subset_insert n W)
      exact hreach'.head ⟨hd, hn, hreach'.1⟩

/-! ## The search -/

/-- What is done with, and what is on the way. -/
def taken (done : Set String) (path : List String) : Set String := {x | x ∈ done ∨ x ∈ path}

theorem taken_mono (h : done ⊆ done') : taken done path ⊆ taken done' path :=
  fun _ hx => hx.imp_left fun hm => h hm

theorem insert_taken : insert n (taken done path) = taken done (n :: path) := by
  ext x
  simp only [taken, Set.mem_insert_iff, Set.mem_ofPred_eq, List.mem_cons]
  tauto

/-- From what is done with one gets only to more of it, or onto the way. -/
def Closed (g : ImportGraph) (done : Set String) (path : List String) : Prop :=
  ∀ y ∈ done, ∀ z, g.Imports z y → z ∈ taken done path

/-- What is done with after the modules `ds` were tried, one after the other. -/
def doneAfter (g : ImportGraph) (done : Set String) (path ds : List String) : Set String :=
  done ∪ {x | ∃ n ∈ ds, g.Reaches (taken done path) n x}

theorem doneAfter_nil : g.doneAfter done path [] = done := by
  unfold doneAfter
  simp

theorem subset_doneAfter : done ⊆ g.doneAfter done path ds := Set.subset_union_left

theorem Closed.after (h : g.Closed done path) (ds : List String) :
    g.Closed (g.doneAfter done path ds) path := by
  rintro y (hy | ⟨n, hn, hreach⟩) z hstep
  · exact taken_mono subset_doneAfter (h y hy z hstep)
  · by_cases hz : z ∈ taken done path
    · exact taken_mono subset_doneAfter hz
    · exact Or.inl (Or.inr ⟨n, hn, hreach.tail ⟨hstep, hreach.not_mem, hz⟩⟩)

/-- Of what is reached off `done`, what is not in a closed larger set is reached off that. -/
theorem Reaches.grown (hclosed : g.Closed done' path) (h : g.Reaches (taken done path) n x) :
    x ∈ done' ∨ g.Reaches (taken done' path) n x := by
  obtain ⟨hn, hreach⟩ := h
  -- what was not taken before is off the way, so it can only be done with since
  have hoff : ∀ {z}, z ∉ taken done path → z ∈ done' ∨ z ∉ taken done' path := by
    intro z hz
    by_cases hz' : z ∈ done'
    · exact Or.inl hz'
    · exact Or.inr fun hm => hm.elim hz' fun hp => hz (Or.inr hp)
  induction hreach with
  | refl => exact (hoff hn).imp_right .refl
  | @tail y z _ hstep ih =>
    rcases hoff hstep.2.2 with hz | hz
    · exact Or.inl hz
    · rcases ih with hy | hy
      · exact absurd (hclosed y hy z hstep.1) hz
      · exact Or.inr (hy.tail ⟨hstep.1, hy.not_mem, hz⟩)

/-- **Trying more modules** later comes to the same as trying all at once. -/
theorem Closed.doneAfter_append (h : g.Closed done path) (ds ds' : List String) :
    g.doneAfter (g.doneAfter done path ds) path ds' = g.doneAfter done path (ds ++ ds') := by
  ext x
  constructor
  · rintro ((hx | ⟨n, hn, hreach⟩) | ⟨n, hn, hreach⟩)
    · exact Or.inl hx
    · exact Or.inr ⟨n, List.mem_append_left _ hn, hreach⟩
    · exact Or.inr ⟨n, List.mem_append_right _ hn, hreach.anti (taken_mono subset_doneAfter)⟩
  · rintro (hx | ⟨n, hn, hreach⟩)
    · exact Or.inl (Or.inl hx)
    · rcases List.mem_append.1 hn with hn | hn
      · exact Or.inl (Or.inr ⟨n, hn, hreach⟩)
      · exact (hreach.grown (h.after ds)).imp_right fun hreach => ⟨n, hn, hreach⟩

/-- **A module is done with** after its importers. -/
theorem insert_doneAfter (h : n ∉ taken done path) (hds : ∀ d, d ∈ ds ↔ g.Imports d n) :
    insert n (g.doneAfter done (n :: path) ds) = g.doneAfter done path [n] := by
  ext x
  unfold doneAfter
  simp only [Set.mem_insert_iff, Set.mem_union, Set.mem_ofPred_eq, List.mem_singleton, hds,
    exists_eq_left]
  rw [reaches_iff, insert_taken]
  tauto

/-- Off `W` one comes from `n` to a module that `a` imports, or `n` is `a`. -/
def LeadsTo (g : ImportGraph) (W : Set String) (n a : String) : Prop :=
  n = a ∨ ∃ x, g.Reaches W n x ∧ g.Imports a x

/-- From a module that is entered one leads on to `a` over one of its importers. -/
theorem LeadsTo.enter (hne : n ≠ a) (h : g.LeadsTo (taken done path) n a) :
    ∃ d, g.Imports d n ∧ g.LeadsTo (taken done (n :: path)) d a := by
  rw [← insert_taken]
  obtain ⟨x, hreach, hstep⟩ := h.resolve_left hne
  obtain ⟨-, rfl | ⟨d, hd, hreach⟩⟩ := reaches_iff.1 hreach
  · exact ⟨a, hstep, Or.inl rfl⟩
  · exact ⟨d, hd, Or.inr ⟨x, hreach, hstep⟩⟩

/-- What leads to `a` still does after `n` was tried, or `n` leads to it. -/
theorem LeadsTo.later (hclosed : g.Closed done path) (h : g.LeadsTo (taken done path) d a) :
    g.LeadsTo (taken done path) n a ∨ g.LeadsTo (taken (g.doneAfter done path [n]) path) d a := by
  rcases h with rfl | ⟨x, hreach, hstep⟩
  · exact Or.inr (Or.inl rfl)
  rcases hreach.grown (hclosed.after [n]) with (hx | ⟨n', hn', hx⟩) | hreach'
  · exact absurd (Or.inl hx) hreach.not_mem
  · obtain rfl := List.mem_singleton.1 hn'
    exact Or.inl (Or.inr ⟨x, hx, hstep⟩)
  · exact Or.inr (Or.inr ⟨x, hreach', hstep⟩)

/-- What reaches a module on the way leads back to the way off it. -/
theorem exists_leadsTo (hm : m ∈ path) (h : ReflTransGen (g.StepsOff done) n m) :
    ∃ a ∈ path, g.LeadsTo (taken done path) n a := by
  induction h using ReflTransGen.head_induction_on with
  | refl => exact ⟨m, hm, Or.inl rfl⟩
  | @head n d hstep _ ih =>
    by_cases hn : n ∈ path
    · exact ⟨n, hn, Or.inl rfl⟩
    obtain ⟨a, ha, hlead⟩ := ih
    have hn' : n ∉ taken done path := fun hm => hm.elim hstep.2.1 hn
    refine ⟨a, ha, Or.inr ?_⟩
    rcases hlead with rfl | ⟨x, hreach, hlast⟩
    · exact ⟨n, .refl hn', hstep.1⟩
    · exact ⟨x, hreach.head ⟨hstep.1, hn', hreach.1⟩, hlast⟩

/-- What the search goes on to from the end of a way: every module where it begins, and the
importers of the module that it has come to, by name. -/
def nextNames (g : ImportGraph) : List String → List String
  | [] => (g.modules.map (·.name)).mergeSort (· ≤ ·)
  | n :: _ => g.dependents n

/-- What is done with when `d` is tried at the end of the way `path`. -/
def doneBefore (g : ImportGraph) (done : Set String) (path : List String) (d : String) :
    Set String :=
  done ∪ {x | ∃ n ∈ g.nextNames path, n < d ∧ g.Reaches (taken done path) n x}

/-- **The search comes along `path`**, the last module first, and is done with `done` then. -/
inductive Met (g : ImportGraph) : Set String → List String → Prop
  | start : Met g ∅ []
  | next {done : Set String} {path : List String} {d : String} (h : Met g done path)
      (hd : d ∈ g.nextNames path) (hnew : d ∉ taken (g.doneBefore done path d) path) :
      Met g (g.doneBefore done path d) (d :: path)

/-- **A module is found** if, when it is met, a cycle through it is off all that is done with. -/
def Found (g : ImportGraph) (m : String) : Prop :=
  ∃ done path, g.Met done (m :: path) ∧ TransGen (g.StepsOff done) m m

theorem nextNames_known (h : d ∈ g.nextNames path) : d ∈ g.modules.map Module.name := by
  cases path with
  | nil => exact List.mem_mergeSort.1 h
  | cons n path =>
    obtain ⟨m, hm, rfl, -⟩ := mem_dependents.1 h
    exact List.mem_map_of_mem hm

theorem nextNames_sorted (hnd : (g.modules.map Module.name).Nodup) (path : List String) :
    (g.nextNames path).Pairwise (· < ·) := by
  cases path with
  | nil => exact pairwise_lt_mergeSort hnd
  | cons n path => exact pairwise_lt_mergeSort (hnd.sublist (List.filter_sublist.map _))

/-- What is tried before `d` is what stands before it. -/
theorem doneBefore_eq (hnd : (g.modules.map Module.name).Nodup) {pre post : List String}
    (h : g.nextNames path = pre ++ d :: post) :
    g.doneBefore done path d = g.doneAfter done path pre := by
  have hsorted := nextNames_sorted hnd path
  rw [h, List.pairwise_append] at hsorted
  obtain ⟨-, hpost, hpre⟩ := hsorted
  have hbefore : ∀ n, n ∈ g.nextNames path ∧ n < d ↔ n ∈ pre := by
    intro n
    rw [h, List.mem_append]
    refine ⟨fun ⟨hn, hlt⟩ => hn.resolve_right fun hn => ?_,
      fun hn => ⟨Or.inl hn, hpre n hn d List.mem_cons_self⟩⟩
    rcases List.mem_cons.1 hn with rfl | hn
    · exact String.lt_irrefl n hlt
    · exact String.lt_asymm hlt ((List.pairwise_cons.1 hpost).1 n hn)
  unfold doneBefore doneAfter
  simp only [← and_assoc, hbefore]

namespace Met

theorem done_subset (h : g.Met done (d :: path)) :
    ∃ done', done' ⊆ done ∧ g.Met done' path ∧ d ∈ g.nextNames path ∧ d ∉ done ∧ d ∉ path := by
  cases h with
  | next h hd hnew =>
    exact ⟨_, Set.subset_union_left, h, hd, fun hm => hnew (Or.inl hm), fun hm => hnew (Or.inr hm)⟩

/-- Of a way the search has come along each part. -/
theorem suffix (l : List String) : ∀ {done : Set String}, g.Met done (l ++ path) →
    ∃ done', done' ⊆ done ∧ g.Met done' path := by
  induction l with
  | nil => exact fun h => ⟨_, subset_rfl, h⟩
  | cons d l ih =>
    intro done h
    obtain ⟨done₁, hle₁, h₁, -⟩ := h.done_subset
    obtain ⟨done₂, hle₂, h₂⟩ := ih h₁
    exact ⟨done₂, hle₂.trans hle₁, h₂⟩

theorem distinct (h : g.Met done path) : path.Nodup := by
  induction h with
  | start => exact List.nodup_nil
  | next _ _ hnew ih => exact List.nodup_cons.2 ⟨fun hm => hnew (Or.inr hm), ih⟩

theorem known (h : g.Met done path) : path ⊆ g.modules.map Module.name := by
  induction h with
  | start => exact List.nil_subset _
  | next _ hd _ ih => exact List.cons_subset.2 ⟨nextNames_known hd, ih⟩

/-- Nothing on the way is done with. -/
theorem apart (h : g.Met done path) : ∀ n ∈ path, n ∉ done := by
  induction h with
  | start => exact fun n hn => absurd hn List.not_mem_nil
  | next _ _ hnew ih =>
    intro n hn
    rcases List.mem_cons.1 hn with rfl | hn
    · exact fun hm => hnew (Or.inl hm)
    · rintro (hm | ⟨n', -, -, hreach⟩)
      · exact ih n hn hm
      · exact hreach.not_mem (Or.inr hn)

theorem closed (hnd : (g.modules.map Module.name).Nodup) (h : g.Met done path) :
    g.Closed done path := by
  induction h with
  | start => exact fun y hy => absurd hy (Set.notMem_empty y)
  | next _ hd _ ih =>
    obtain ⟨pre, post, hnext⟩ := List.append_of_mem hd
    rw [doneBefore_eq hnd hnext]
    exact fun y hy z hstep => (ih.after pre y hy z hstep).imp_right (List.mem_cons_of_mem _)

/-- A way goes from module to importer. -/
theorem chain (h : g.Met done path) : path.IsChain g.Imports := by
  induction h with
  | start => exact List.isChain_nil
  | @next _ path d _ hd _ ih =>
    cases path with
    | nil => exact List.isChain_singleton d
    | cons n path => exact List.isChain_cons_cons.2 ⟨mem_dependents.1 hd, ih⟩

/-- Along the way one comes, off what is done with, to all that stands later on it. -/
theorem pairwise (h : g.Met done path) :
    path.Pairwise fun a b => TransGen (g.StepsOff done) b a := by
  have hsteps : path.IsChain (TransGen (Function.swap (g.StepsOff done))) :=
    h.chain.imp_of_mem_imp fun a b ha hb hab => .single ⟨hab, h.apart b hb, h.apart a ha⟩
  exact hsteps.pairwise.imp fun hab => transGen_swap.1 hab

/-- **Where the search comes back to its way**, all since then is found. -/
theorem found (h : g.Met done path) (hd : d ∈ g.nextNames path) (hon : d ∈ path)
    (hy : y ∈ d :: path.takeWhile (· != d)) : g.Found y := by
  obtain ⟨l, l', hpath, hback⟩ : ∃ l l', path = l ++ y :: l' ∧ d ∈ y :: l' := by
    rcases List.mem_cons.1 hy with rfl | hy
    · obtain ⟨l, l', rfl⟩ := List.append_of_mem hon
      exact ⟨l, l', rfl, List.mem_cons_self⟩
    · obtain ⟨l, l', hl⟩ := List.append_of_mem hy
      have hsplit := List.takeWhile_append_dropWhile (p := (· != d)) (l := path)
      rw [hl, List.append_assoc, List.cons_append] at hsplit
      refine ⟨l, _, hsplit.symm, ?_⟩
      -- `d` is not among those before it comes, and `y` is
      have hno : d ∉ path.takeWhile (· != d) := fun hm => by
        simpa using List.mem_takeWhile_imp hm
      rw [hl] at hno
      rw [← hsplit] at hon
      refine (List.mem_append.1 hon).resolve_left fun hm => hno (List.mem_append_left _ hm)
  obtain ⟨done', hle, hmet⟩ := suffix l (hpath ▸ h)
  refine ⟨done', l', hmet, cycle_anti hle ?_⟩
  have hpairs := h.pairwise
  rw [hpath] at hpairs
  obtain ⟨-, hlater, hearlier⟩ := List.pairwise_append.1 hpairs
  -- from `d` one comes up the way to `y`
  have hclimb : ReflTransGen (g.StepsOff done) d y := by
    rcases List.mem_cons.1 hback with rfl | hback
    · exact .refl
    · exact ((List.pairwise_cons.1 hlater).1 d hback).to_reflTransGen
  -- from `y` the way goes on to its end, whose importer is `d` again
  cases l with
  | nil =>
    subst hpath
    exact .head' ⟨mem_dependents.1 hd, h.apart y List.mem_cons_self, h.apart d hon⟩ hclimb
  | cons t l =>
    subst hpath
    have hup : TransGen (g.StepsOff done) y t := hearlier t List.mem_cons_self y List.mem_cons_self
    have hstep : g.StepsOff done t d :=
      ⟨mem_dependents.1 hd, h.apart t List.mem_cons_self, h.apart d hon⟩
    exact hup.trans (.head' hstep hclimb)

/-! ## One way to each module -/

/-- **A way settles what is done with.** -/
theorem done_unique (h : g.Met done path) : ∀ {done'}, g.Met done' path → done = done' := by
  induction h with
  | start =>
    intro done' h'
    cases h'
    rfl
  | next _ _ _ ih =>
    intro done' h'
    cases h' with
    | next h' _ _ => rw [ih h']

/-- What comes after a way was not taken on it. -/
theorem later_off (hpath : g.Met done path) (h : g.Met done' (y :: (l ++ path))) :
    y ∉ taken done path := by
  obtain ⟨done₁, hle₁, h₁, -, hnew, hon⟩ := h.done_subset
  obtain ⟨done₂, hle₂, h₂⟩ := suffix l h₁
  rw [← hpath.done_unique h₂] at hle₂
  exact fun hy => hy.elim (fun hm => hnew (hle₁ (hle₂ hm))) fun hm =>
    hon (List.mem_append_right _ hm)

/-- What is met after `d` is reached from it. -/
theorem reached (hpath : g.Met done path) (l : List String) : ∀ {done'},
    g.Met done' (l ++ d :: path) → ∀ y ∈ l ++ [d], g.Reaches (taken done path) d y := by
  induction l with
  | nil =>
    intro done' h y hy
    obtain rfl := List.mem_singleton.1 hy
    exact .refl (hpath.later_off (l := []) h)
  | cons c l ih =>
    intro done' h y hy
    obtain ⟨done₁, -, h₁, hc, -⟩ := h.done_subset
    have hreach := ih h₁
    rw [List.cons_append, List.mem_cons] at hy
    rcases hy with rfl | hy
    · rw [List.cons_append, List.append_cons] at h
      have hy := hpath.later_off h
      cases l with
      | nil =>
        have hd := hreach d (List.mem_singleton_self d)
        exact hd.tail ⟨mem_dependents.1 hc, hd.not_mem, hy⟩
      | cons b l =>
        have hb := hreach b List.mem_cons_self
        exact hb.tail ⟨mem_dependents.1 hc, hb.not_mem, hy⟩
    · exact hreach y hy

/-- What is met after `d` is done with when a later one is tried. -/
theorem not_met_twice (hpath : g.Met done path) (h : g.Met V (l ++ d :: path))
    (h' : g.Met W (l' ++ d' :: path)) (hlt : d < d') (hm : m ∈ l ++ [d]) : m ∉ l' ++ [d'] := by
  intro hm'
  obtain ⟨done₁, -, h₁⟩ := suffix l h
  obtain ⟨done₂, -, -, hd, -⟩ := h₁.done_subset
  obtain ⟨done₃, hle, h₃⟩ := suffix l' h'
  -- what is reached from `d` is done with when `d'` is tried, and so `m` is
  have hdone : m ∈ done₃ := by
    cases h₃ with
    | next h₃ _ _ =>
      rw [← hpath.done_unique h₃]
      exact Or.inr ⟨d, hd, hlt, hpath.reached l h m hm⟩
  refine h'.apart m ?_ (hle hdone)
  rw [List.append_cons]
  exact List.mem_append_left _ hm'

/-- Ways to one module that have begun alike go on alike. -/
theorem same_rest (l : List String) : ∀ {l' path}, g.Met V (l ++ path) → g.Met W (l' ++ path) →
    (l ++ path).head? = (l' ++ path).head? → l = l' := by
  have hend : ∀ (l : List String) (d : String) (path : List String),
      ∃ m ∈ l ++ [d], (l ++ [d] ++ path).head? = some m := by
    intro l d path
    cases l with
    | nil => exact ⟨d, List.mem_cons_self, rfl⟩
    | cons m l => exact ⟨m, List.mem_cons_self, rfl⟩
  -- a module that is met where the other way ends already would be on that way twice
  have hshort : ∀ {l d path U}, g.Met U (l ++ [d] ++ path) →
      (l ++ [d] ++ path).head? ≠ path.head? := by
    intro l d path U h hhead
    obtain ⟨m, hm, hfirst⟩ := hend l d path
    have hm' : m ∈ path := List.mem_of_mem_head? (hhead.symm.trans hfirst)
    exact (List.nodup_append.1 h.distinct).2.2 m hm m hm' rfl
  induction l using List.reverseRecOn with
  | nil =>
    intro l' path h h' hhead
    rcases List.eq_nil_or_concat l' with rfl | ⟨l', d', rfl⟩
    · rfl
    · rw [List.concat_eq_append] at h' hhead
      exact absurd hhead.symm (hshort h')
  | append_singleton l d ih =>
    intro l' path h h' hhead
    rcases List.eq_nil_or_concat l' with rfl | ⟨l', d', rfl⟩
    · exact absurd hhead (hshort h)
    · rw [List.concat_eq_append] at h' hhead ⊢
      obtain ⟨m, hm, hfirst⟩ := hend l d path
      obtain ⟨m', hm', hfirst'⟩ := hend l' d' path
      obtain rfl : m = m' := Option.some.inj (hfirst.symm.trans (hhead.trans hfirst'))
      obtain ⟨done₁, -, hpath⟩ := suffix (l ++ [d]) h
      rw [← List.append_cons] at h h' hhead
      rw [← List.append_cons] at hhead
      -- if the ways differed here, one of the two modules would be tried before the other
      obtain rfl : d = d' := by
        rcases Std.lt_trichotomy d d' with hlt | heq | hlt
        · exact absurd hm' (hpath.not_met_twice h h' hlt hm)
        · exact heq
        · exact absurd hm (hpath.not_met_twice h' h hlt hm')
      rw [ih h h' hhead]

/-- **A module is met on one way**, if it is met. -/
theorem unique (h : g.Met done (m :: path)) (h' : g.Met done' (m :: path')) :
    done = done' ∧ path = path' := by
  have h₀ : g.Met done ((m :: path) ++ []) := by rwa [List.append_nil]
  have h₀' : g.Met done' ((m :: path') ++ []) := by rwa [List.append_nil]
  obtain ⟨-, rfl⟩ := List.cons.inj (same_rest (m :: path) h₀ h₀' rfl)
  exact ⟨h.done_unique h', rfl⟩

end Met

end ImportGraph

end GraphWalk
