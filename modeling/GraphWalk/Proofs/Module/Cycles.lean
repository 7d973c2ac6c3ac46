import GraphWalk.Proofs.Module.Search
import Mathlib.Tactic

/-!
# Which cycles are found

A visit is done with what is reached from its module off what was done with before and off the
way (`cycleVisit_searched`), and it marks the way since all that its module leads back to
(`cycleVisit_marks`). So the search comes along every way of `Met` (`met_comes`), and what it
marks is what is `Found` (`onCycle_iff`). A module on a cycle may be missed: when it is met, the
search may be done with its cycles already, having come back to other modules of them only.

Main result: `found_of_cycles`. **The modules that are reported are those that are found**, by
name, and every cycle has one of them.
-/

namespace GraphWalk

namespace ImportGraph

open Relation

/-- The modules that a search is done with. -/
def CycleRun.done (run : CycleRun) : Set String := {x | x ∈ run.finished}

variable {g : ImportGraph} {W done : Set String} {path pre post ds : List String}
  {run run' : CycleRun} {fuel : Nat} {m n d a x y : String}

/-! ## Visits -/

/-- The visits from the end of a way, one after the other. -/
def visitAll (g : ImportGraph) (fuel : Nat) (path ds : List String) (run : CycleRun) : CycleRun :=
  ds.foldl (fun run d => g.cycleVisit fuel run path d) run

theorem visitAll_cons : g.visitAll fuel path (d :: ds) run =
    g.visitAll fuel path ds (g.cycleVisit fuel run path d) := rfl

theorem visitAll_append : g.visitAll fuel path (pre ++ post) run =
    g.visitAll fuel path post (g.visitAll fuel path pre run) := List.foldl_append

/-- A module that is done with is not visited again. -/
theorem cycleVisit_done (h : n ∈ run.done) : g.cycleVisit (fuel + 1) run path n = run := by
  unfold cycleVisit
  rw [if_pos (List.contains_iff_mem.2 h)]

/-- A module on the way is marked, with all since then. -/
theorem cycleVisit_back (h : n ∉ run.done) (hon : n ∈ path) :
    g.cycleVisit (fuel + 1) run path n =
      { run with onCycle := n :: path.takeWhile (· != n) ++ run.onCycle } := by
  unfold cycleVisit
  rw [if_neg (fun hm => h (List.contains_iff_mem.1 hm)), if_pos (List.contains_iff_mem.2 hon)]

/-- Any other module is entered, and done with after its importers. -/
theorem cycleVisit_new (h : n ∉ taken run.done path) : g.cycleVisit (fuel + 1) run path n =
    ⟨n :: (g.visitAll fuel (n :: path) (g.dependents n) run).finished,
      (g.visitAll fuel (n :: path) (g.dependents n) run).onCycle⟩ := by
  unfold cycleVisit
  rw [if_neg (fun hm => h (Or.inl (List.contains_iff_mem.1 hm))),
    if_neg (fun hm => h (Or.inr (List.contains_iff_mem.1 hm)))]
  rfl

/-- A visit finds its module done with, on the way, or new. -/
theorem visit_cases (run : CycleRun) (path : List String) (n : String) :
    n ∈ run.done ∨ n ∉ run.done ∧ n ∈ path ∨ n ∉ taken run.done path := by
  by_cases hd : n ∈ run.done
  · exact Or.inl hd
  · by_cases hp : n ∈ path
    · exact Or.inr (Or.inl ⟨hd, hp⟩)
    · exact Or.inr (Or.inr fun hm => hm.elim hd hp)

/-- What is marked stays marked when each visit keeps it. -/
theorem visitAll_onCycle (hvisit : ∀ run n, run.onCycle ⊆ (g.cycleVisit fuel run path n).onCycle)
    (ds : List String) : ∀ run, run.onCycle ⊆ (g.visitAll fuel path ds run).onCycle := by
  induction ds with
  | nil => exact fun run => List.Subset.refl _
  | cons d ds ih => exact fun run => List.Subset.trans (hvisit run d) (ih _)

theorem cycleVisit_onCycle (fuel : Nat) : ∀ path run n,
    run.onCycle ⊆ (g.cycleVisit fuel run path n).onCycle := by
  induction fuel with
  | zero => exact fun path run n => List.Subset.refl _
  | succ fuel ih =>
    intro path run n
    rcases visit_cases run path n with h | ⟨h, hon⟩ | h
    · rw [cycleVisit_done h]
      exact List.Subset.refl _
    · rw [cycleVisit_back h hon]
      exact List.subset_append_right _ _
    · rw [cycleVisit_new h]
      exact visitAll_onCycle (ih (n :: path)) _ run

/-! ## What a visit is done with -/

/-- Of every set of modules that is touched, one is met before any other is done with. -/
def MetFirst (g : ImportGraph) (C : Set String) : Prop :=
  ∃ v ∈ C, ∃ done path, g.Met done (v :: path) ∧ ∀ c ∈ C, c ∉ done

/-- **The invariant** of a search that has come along `path` and tried the modules `ds` there. -/
structure Searched (g : ImportGraph) (done : Set String) (path ds : List String)
    (run : CycleRun) : Prop where
  done : run.done = g.doneAfter done path ds
  first : ∀ C : Set String, ∀ y ∈ C, y ∈ run.done → g.MetFirst C
  found : ∀ y ∈ run.onCycle, g.Found y

/-- Fewer modules are on a way than there are. -/
theorem Met.length_le (h : g.Met done path) : path.length ≤ g.modules.length := by
  rw [← List.length_map (f := Module.name)]
  exact (List.subperm_of_subset h.distinct h.known).length_le

/-- What was tried before `d` is what is done with when `d` is met. -/
theorem Searched.met (hnd : (g.modules.map Module.name).Nodup) (hmet : g.Met done path)
    (hnext : g.nextNames path = pre ++ d :: post) (h : g.Searched done path pre run)
    (hnew : d ∉ taken run.done path) : g.Met run.done (d :: path) := by
  rw [h.done, ← doneBefore_eq hnd hnext] at hnew ⊢
  exact .next hmet (hnext ▸ List.mem_append_right _ List.mem_cons_self) hnew

/-- A search that enters a module has tried nothing there. -/
theorem Searched.enter (h : g.Searched done path ds run) (n : String) :
    g.Searched run.done (n :: path) [] run :=
  ⟨doneAfter_nil.symm, h.first, h.found⟩

/-- **Visits in a row** do what the single visits do. -/
theorem visitAll_searched (hvisit : ∀ run pre d post, g.nextNames path = pre ++ d :: post →
      g.Searched done path pre run →
        g.Searched done path (pre ++ [d]) (g.cycleVisit fuel run path d)) (ds : List String) :
    ∀ run pre post, g.nextNames path = pre ++ ds ++ post → g.Searched done path pre run →
      g.Searched done path (pre ++ ds) (g.visitAll fuel path ds run) := by
  induction ds with
  | nil =>
    intro run pre post _ h
    rwa [List.append_nil]
  | cons d ds ih =>
    intro run pre post hnext h
    have hnext' : g.nextNames path = (pre ++ [d]) ++ ds ++ post := by
      rw [hnext, List.append_cons]
    have hd := hvisit run pre d (ds ++ post) (by simpa using hnext) h
    rw [visitAll_cons, List.append_cons]
    exact ih _ _ _ hnext' hd

/-- **A visit** is done with what is reached from its module off the rest, and finds what it
marks. -/
theorem cycleVisit_searched (hnd : (g.modules.map Module.name).Nodup) (fuel : Nat) :
    ∀ done path run pre d post, g.Met done path → g.modules.length < fuel + path.length →
      g.nextNames path = pre ++ d :: post → g.Searched done path pre run →
        g.Searched done path (pre ++ [d]) (g.cycleVisit fuel run path d) := by
  -- each module on the way uses up some fuel, and there are no more of them than modules
  induction fuel with
  | zero =>
    intro done path run pre d post hmet hfuel
    have := hmet.length_le
    omega
  | succ fuel ih =>
    intro done path run pre d post hmet hfuel hnext h
    have hclosed := hmet.closed hnd
    have hafter : g.doneAfter done path (pre ++ [d]) = g.doneAfter run.done path [d] := by
      rw [h.done, hclosed.doneAfter_append]
    have hsame : d ∈ taken run.done path → g.doneAfter done path (pre ++ [d]) = run.done := by
      intro hd
      rw [hafter]
      refine subset_antisymm ?_ subset_doneAfter
      rintro x (hx | ⟨n, hn, hreach⟩)
      · exact hx
      · exact absurd hd (List.mem_singleton.1 hn ▸ hreach.1)
    rcases visit_cases run path d with hd | ⟨hd, hon⟩ | hnew
    · rw [cycleVisit_done hd]
      exact ⟨(hsame (Or.inl hd)).symm, h.first, h.found⟩
    · rw [cycleVisit_back hd hon]
      refine ⟨(hsame (Or.inr hon)).symm, h.first, fun y hy => ?_⟩
      rcases List.mem_append.1 hy with hy | hy
      · exact hmet.found (hnext ▸ List.mem_append_right _ List.mem_cons_self) hon hy
      · exact h.found y hy
    · rw [cycleVisit_new hnew]
      have hmet' := h.met hnd hmet hnext hnew
      have hvisit := fun run' pre' d' post' =>
        ih run.done (d :: path) run' pre' d' post' hmet' (by rw [List.length_cons]; omega)
      have hall := visitAll_searched hvisit (g.dependents d) run [] [] (List.append_nil _).symm
        (h.enter d)
      rw [List.nil_append] at hall
      generalize g.visitAll fuel (d :: path) (g.dependents d) run = run' at hall
      have hdone : CycleRun.done ⟨d :: run'.finished, run'.onCycle⟩ = insert d run'.done := by
        ext x
        exact List.mem_cons
      refine ⟨?_, fun C y hC hy => ?_, hall.found⟩
      · rw [hdone, hafter, hall.done]
        exact insert_doneAfter hnew fun _ => mem_dependents
      · rw [hdone] at hy
        rcases Set.mem_insert_iff.1 hy with rfl | hy
        · by_cases htouched : ∃ c ∈ C, c ∈ run.done
          · obtain ⟨c, hc, hcd⟩ := htouched
            exact h.first C c hc hcd
          · exact ⟨y, hC, _, _, hmet', fun c hc hcd => htouched ⟨c, hc, hcd⟩⟩
        · exact hall.first C y hC hy

/-! ## What a visit marks -/

/-- Visits in a row mark what one of them marks. -/
theorem visitAll_marks (hnd : (g.modules.map Module.name).Nodup) (hmet : g.Met done path)
    (hfuel : g.modules.length < fuel + path.length)
    (hvisit : ∀ run pre d post, g.nextNames path = pre ++ d :: post →
      g.Searched done path pre run → g.LeadsTo (taken run.done path) d a →
        y ∈ (g.cycleVisit fuel run path d).onCycle) (ds : List String) :
    ∀ run pre, g.nextNames path = pre ++ ds → g.Searched done path pre run →
      (∃ d ∈ ds, g.LeadsTo (taken run.done path) d a) →
        y ∈ (g.visitAll fuel path ds run).onCycle := by
  induction ds with
  | nil => exact fun run pre _ _ ⟨d, hd, _⟩ => absurd hd List.not_mem_nil
  | cons n ds ih =>
    intro run pre hnext h hlead
    have hn := cycleVisit_searched hnd fuel _ _ run pre n ds hmet hfuel hnext h
    by_cases hnow : g.LeadsTo (taken run.done path) n a
    · exact visitAll_onCycle (cycleVisit_onCycle fuel path) ds _ (hvisit run pre n ds hnext h hnow)
    -- otherwise a later one leads to `a`, also after this one was tried
    obtain ⟨d, hd, hlead⟩ := hlead
    have hclosed : g.Closed run.done path := h.done ▸ (hmet.closed hnd).after pre
    have hafter : g.doneAfter run.done path [n] = (g.cycleVisit fuel run path n).done := by
      rw [hn.done, h.done, (hmet.closed hnd).doneAfter_append]
    refine ih _ (pre ++ [n]) (by rw [hnext, ← List.append_cons]) hn ⟨d, ?_, ?_⟩
    · rcases List.mem_cons.1 hd with rfl | hd
      · exact absurd hlead hnow
      · exact hd
    · rw [← hafter]
      exact (hlead.later hclosed).resolve_left hnow

/-- **A visit marks the way** since the module that it leads back to. -/
theorem cycleVisit_marks (hnd : (g.modules.map Module.name).Nodup) (fuel : Nat) :
    ∀ done path run pre d post, g.Met done path → g.modules.length < fuel + path.length →
      g.nextNames path = pre ++ d :: post → g.Searched done path pre run → a ∈ path →
      g.LeadsTo (taken run.done path) d a → y ∈ a :: path.takeWhile (· != a) →
        y ∈ (g.cycleVisit fuel run path d).onCycle := by
  induction fuel with
  | zero =>
    intro done path run pre d post hmet hfuel
    have := hmet.length_le
    omega
  | succ fuel ih =>
    intro done path run pre d post hmet hfuel hnext h ha hlead hy
    have hapart : a ∉ run.done := by
      rw [h.done]
      rintro (hm | ⟨n, -, hreach⟩)
      · exact hmet.apart a ha hm
      · exact hreach.not_mem (Or.inr ha)
    by_cases hda : d = a
    · subst hda
      rw [cycleVisit_back hapart ha]
      exact List.mem_append_left _ hy
    have hnew : d ∉ taken run.done path := by
      obtain ⟨x, hreach, -⟩ := hlead.resolve_left hda
      exact hreach.1
    rw [cycleVisit_new hnew]
    have hmet' := h.met hnd hmet hnext hnew
    have hfuel' : g.modules.length < fuel + (d :: path).length := by
      rw [List.length_cons]
      omega
    obtain ⟨e, he, hlead⟩ := hlead.enter hda
    refine visitAll_marks hnd hmet' hfuel' (a := a) (fun run' pre' d' post' hnext' h' hlead' => ?_)
      (g.dependents d) run [] rfl (h.enter d) ⟨e, mem_dependents.2 he, hlead⟩
    refine ih _ _ run' pre' d' post' hmet' hfuel' hnext' h' (List.mem_cons_of_mem d ha) hlead' ?_
    rw [List.takeWhile_cons_of_pos (by simpa using hda)]
    rcases List.mem_cons.1 hy with rfl | hy
    · exact List.mem_cons_self
    · exact List.mem_cons_of_mem a (List.mem_cons_of_mem d hy)

/-! ## The whole search -/

/-- The search from the smallest name to the greatest. -/
def search (g : ImportGraph) : CycleRun :=
  g.visitAll (g.modules.length + 1) [] (g.nextNames []) ⟨[], []⟩

theorem cycles_eq : g.cycles = g.search.onCycle.eraseDups.mergeSort (· ≤ ·) := by
  unfold cycles search
  simp only [List.length_mergeSort, List.length_map]
  rfl

theorem searched_start : g.Searched ∅ [] [] ⟨[], []⟩ where
  done := by
    rw [doneAfter_nil]
    ext x
    exact List.mem_nil_iff x
  first := fun _ _ _ hy => absurd hy List.not_mem_nil
  found := fun _ hy => absurd hy List.not_mem_nil

theorem search_searched (hnd : (g.modules.map Module.name).Nodup) :
    g.Searched ∅ [] (g.nextNames []) g.search := by
  have hvisit := fun run pre d post =>
    cycleVisit_searched hnd (g.modules.length + 1) ∅ [] run pre d post .start (by omega)
  have h := visitAll_searched hvisit (g.nextNames []) ⟨[], []⟩ [] [] (List.append_nil _).symm
    searched_start
  rwa [List.nil_append] at h

/-- **The search comes along every way**, and what it marks from there on is marked at the end. -/
theorem met_comes (hnd : (g.modules.map Module.name).Nodup) (h : g.Met done path) :
    ∃ fuel run, g.modules.length < fuel + path.length ∧ g.Searched done path [] run ∧
      (g.visitAll fuel path (g.nextNames path) run).onCycle ⊆ g.search.onCycle := by
  induction h with
  | start => exact ⟨_, _, by simp, searched_start, List.Subset.refl _⟩
  | @next done path d hmet hd hnew ih =>
    obtain ⟨fuel, run, hfuel, hrun, hle⟩ := ih
    obtain ⟨pre, post, hnext⟩ := List.append_of_mem hd
    have hpre := visitAll_searched (fun run pre d post =>
      cycleVisit_searched hnd fuel done path run pre d post hmet hfuel) pre run [] (d :: post)
      hnext hrun
    rw [List.nil_append] at hpre
    rw [doneBefore_eq hnd hnext, ← hpre.done] at hnew ⊢
    have hlen := (hpre.met hnd hmet hnext hnew).length_le
    rw [List.length_cons] at hlen
    cases fuel with
    | zero => omega
    | succ fuel =>
      refine ⟨fuel, _, by rw [List.length_cons]; omega, hpre.enter d, List.Subset.trans ?_ hle⟩
      rw [hnext, visitAll_append, visitAll_cons, cycleVisit_new hnew]
      generalize g.visitAll (fuel + 1) path pre run = run₁
      let inner := g.visitAll fuel (d :: path) (g.nextNames (d :: path)) run₁
      exact visitAll_onCycle (cycleVisit_onCycle (fuel + 1) path) post
        ⟨d :: inner.finished, inner.onCycle⟩

/-- **What is marked is what is found.** -/
theorem onCycle_iff (hnd : (g.modules.map Module.name).Nodup) :
    m ∈ g.search.onCycle ↔ g.Found m := by
  refine ⟨(search_searched hnd).found m, ?_⟩
  rintro ⟨done, path, hmet, hcycle⟩
  obtain ⟨fuel, run, hfuel, hrun, hle⟩ := met_comes hnd hmet
  obtain ⟨d, hstep, hback⟩ := TransGen.head'_iff.1 hcycle
  have hon : m ∈ m :: path := List.mem_cons_self
  obtain ⟨a, ha, hlead⟩ := exists_leadsTo hon hback
  have hdone : run.done = done := hrun.done.trans doneAfter_nil
  refine hle (visitAll_marks hnd hmet hfuel (a := a) (fun run pre d post hnext h hlead => ?_)
    (g.nextNames (m :: path)) run [] rfl hrun ⟨d, mem_dependents.2 hstep.1, by rwa [hdone]⟩)
  refine cycleVisit_marks hnd fuel _ _ run pre d post hmet hfuel hnext h ha hlead ?_
  -- the module is the last on the way, so it is marked whatever is led back to
  by_cases hma : m = a
  · exact hma ▸ List.mem_cons_self
  · rw [List.takeWhile_cons_of_pos (by simpa using hma)]
    exact List.mem_cons_of_mem a List.mem_cons_self

/-- Of every set of modules one is met before any other is done with. -/
theorem metFirst (hnd : (g.modules.map Module.name).Nodup) {C : Set String} (hm : m ∈ C)
    (hknown : m ∈ g.modules.map Module.name) : g.MetFirst C := by
  have h := search_searched hnd
  refine h.first C m hm ?_
  rw [h.done]
  refine Or.inr ⟨m, List.mem_mergeSort.2 hknown, .refl ?_⟩
  rintro (hm | hm)
  · exact hm
  · exact absurd hm List.not_mem_nil

/-- **Every cycle is found** at one of its modules at least. -/
theorem exists_found (hnd : (g.modules.map Module.name).Nodup)
    (hcycle : TransGen (g.StepsOff W) m m) :
    ∃ n, g.Found n ∧ ReflTransGen (g.StepsOff W) m n ∧ ReflTransGen (g.StepsOff W) n m := by
  have hknown : m ∈ g.modules.map Module.name := by
    obtain ⟨n, hstep, -⟩ := TransGen.head'_iff.1 hcycle
    obtain ⟨x, hx, -, hm⟩ := hstep.1
    obtain ⟨y, hy, rfl⟩ := depsOf_mem hm
    exact List.mem_map_of_mem hy
  -- of all that lies on cycles with `m`, what is met first is found
  obtain ⟨v, ⟨hmv, hvm⟩, done, path, hmet, hoff⟩ := metFirst hnd
    (C := {n | ReflTransGen (g.StepsOff W) m n ∧ ReflTransGen (g.StepsOff W) n m})
    ⟨.refl, .refl⟩ hknown
  have hcycle' : TransGen (g.StepsOff W) v v := (TransGen.trans_right hvm hcycle).trans_left hmv
  have hwithin := cycle_within (fun x hvx hxv => hoff x ⟨hmv.trans hvx, hxv.trans hvm⟩) hcycle'
  refine ⟨v, ⟨done, path, hmet, ?_⟩, hmv, hvm⟩
  exact TransGen.mono (fun _ _ hstep => ⟨hstep.1.1, hstep.2⟩) _ _ hwithin

/-- **Which modules are reported.** Each module is met on one way, and what is done with by then
is settled by it. Modules are reported by name, each once, and just those through which, when they
are met, there is a cycle of modules that are not done with. They are on cycles of imports; and of
every cycle, also off any set of modules, one module is reported, but perhaps not all of them. -/
theorem found_of_cycles (hnd : (g.modules.map Module.name).Nodup) :
    g.cycles.Pairwise (· < ·) ∧
      (∀ m ∈ g.modules.map Module.name,
        ∃! way : Set String × List String, g.Met way.1 (m :: way.2)) ∧
      (∀ m, m ∈ g.cycles ↔
        ∃ done path, g.Met done (m :: path) ∧ TransGen (g.StepsOff done) m m) ∧
      (∀ m ∈ g.cycles, TransGen g.Imports m m) ∧
      ∀ W m, TransGen (g.StepsOff W) m m → ∃ n ∈ g.cycles,
        ReflTransGen (g.StepsOff W) m n ∧ ReflTransGen (g.StepsOff W) n m := by
  have hmem : ∀ m, m ∈ g.cycles ↔ g.Found m := fun m => by
    rw [cycles_eq, List.mem_mergeSort, List.mem_eraseDups, onCycle_iff hnd]
  refine ⟨?_, fun m hm => ?_, hmem, fun m hm => ?_, fun W m hcycle => ?_⟩
  · rw [cycles_eq]
    exact pairwise_lt_mergeSort (nodup_eraseDups _)
  · obtain ⟨v, hv, done, path, hmet, -⟩ := metFirst hnd (Set.mem_singleton m) hm
    obtain rfl := Set.mem_singleton_iff.1 hv
    refine ⟨(done, path), hmet, fun way hway => ?_⟩
    obtain ⟨hdone, hpath⟩ := hway.unique hmet
    exact Prod.ext hdone hpath
  · obtain ⟨done, path, -, hcycle⟩ := (hmem m).1 hm
    exact imports_of_stepsOff hcycle
  · obtain ⟨n, hn, hmn, hnm⟩ := exists_found hnd hcycle
    exact ⟨n, (hmem n).2 hn, hmn, hnm⟩

/-- Three modules in a ring, of which the second imports the first as well. -/
def shortcut : ImportGraph :=
  ⟨[importer "a" ["b"], importer "b" ["a", "c"], importer "c" ["a"]]⟩

theorem shortcut_cycles : shortcut.cycles = ["a", "b"] := by cbv

theorem found_shortcut :
    (shortcut.modules.map Module.name).Nodup ∧ shortcut.cycles = ["a", "b"] ∧
      (∃ done path, shortcut.Met done ("b" :: path) ∧ TransGen (shortcut.StepsOff done) "b" "b") ∧
      ¬∃ done path, shortcut.Met done ("c" :: path) ∧
        TransGen (shortcut.StepsOff done) "c" "c" := by
  have hnd : (shortcut.modules.map Module.name).Nodup := by decide
  obtain ⟨-, -, hfound, -⟩ := found_of_cycles hnd
  rw [shortcut_cycles] at hfound
  refine ⟨hnd, shortcut_cycles, (hfound "b").1 (by decide), fun hc => ?_⟩
  exact absurd ((hfound "c").2 hc) (by decide)

/-- The ring goes over the third module, which is missed: when it is met, the search is done with
the second one. -/
theorem shortcut_missed :
    (shortcut.modules.map Module.name).Nodup ∧ TransGen shortcut.Imports "c" "c" ∧
      "c" ∉ shortcut.cycles := by
  have hab : shortcut.Imports "a" "b" := ⟨_, List.mem_cons_self, rfl, by decide⟩
  have hbc : shortcut.Imports "b" "c" :=
    ⟨_, List.mem_cons_of_mem _ List.mem_cons_self, rfl, by decide⟩
  have hca : shortcut.Imports "c" "a" :=
    ⟨_, List.mem_cons_of_mem _ (List.mem_cons_of_mem _ List.mem_cons_self), rfl, by decide⟩
  refine ⟨by decide, .head hca (.head hab (.single hbc)), ?_⟩
  rw [shortcut_cycles]
  decide

end ImportGraph

end GraphWalk
