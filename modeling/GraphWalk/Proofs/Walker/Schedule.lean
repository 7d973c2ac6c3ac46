import GraphWalk.Proofs.Walker.Group

/-!
# One walker after the other

`Engine.runAll` runs walkers one after the other, each up to the end or until it is cancelled.
`Finishes` says that its fuel is enough for that. Then it is one of the schedules of a group: a
job is started when the one before it is done, its steps are made without a break, and its
faults are handed in at once.

Main result: `runAll_schedule`. **What `runAll` returns is what a group returns** along this
schedule, with whatever number of workers.
-/

namespace GraphWalk

namespace Engine

variable {e : Engine} {w : Walker} {i : Nat}

/-- Whether the walkers after this one are cancelled. -/
def cancelledAfter (e : Engine) (fuel : Nat) (cancelled : Bool) (i : Nat) : Bool :=
  cancelled || (e.haltOnError && (e.run fuel cancelled i).2.isSome)

/-- The steps of each walker end within the fuel. -/
def Finishes (fuel : Nat) : Bool → List Nat → Engine → Prop
  | _, [], _ => True
  | cancelled, i :: rest, e =>
    (∃ o, (stepMany cancelled i fuel e).2.getLast? = some o ∧ o.kind ≠ .moved) ∧
      Finishes fuel (e.cancelledAfter fuel cancelled i) rest (e.run fuel cancelled i).1

/-- No step renames its walker. -/
theorem stepWalker_id (e : Engine) (cancelled : Bool) (w : Walker) :
    (e.stepWalker cancelled w).1.walker.id = w.id := by
  by_cases hr : w.state.isTerminal = true ∨ cancelled = true
  · rw [(stepWalker_rests hr).1]
  · obtain ⟨ha, hc⟩ := not_or.1 hr
    rw [Bool.not_eq_true] at ha hc
    subst hc
    have hworked : (e.worked w).walker.id = w.id := by
      cases hi : e.store.instanceAt w.position with
      | error err => unfold worked; rw [hi]
      | ok inst => exact (worked_accrues Visit.accrues_queueCalls ha hi).id
    have hadvances := Stepped.advances (s := ⟨e, false, w⟩) (by simp [Stepped.isTaken, ha])
    exact hadvances.flows.tells.id.trans hworked

/-- How a walker is called. -/
def nameOf (e : Engine) (i : Nat) : String := ((e.walkers[i]?).map (·.id)).getD ""

/-- What is noted of one walker. -/
def noted (e : Engine) (fuel : Nat) (cancelled : Bool) (i : Nat) : Option Fault :=
  (e.run fuel cancelled i).2.map (.within ("walker " ++ e.nameOf i))

theorem runEach_cons (fuel : Nat) (cancelled : Bool) (i : Nat) (rest : List Nat) (e : Engine) :
    runEach fuel cancelled (i :: rest) e =
      let r := runEach fuel (e.cancelledAfter fuel cancelled i) rest (e.run fuel cancelled i).1
      (r.1, (e.noted fuel cancelled i).toList ++ r.2) := by
  have hempty : (!((e.run fuel cancelled i).2.map fun f =>
      Fault.within ("walker " ++ e.nameOf i) f).toList.isEmpty) =
        (e.run fuel cancelled i).2.isSome := by
    cases (e.run fuel cancelled i).2 <;> rfl
  unfold cancelledAfter
  rw [← hempty]
  rfl

theorem act_step_nameOf (e : Engine) (cancelled : Bool) (j i : Nat) :
    (e.act (.step cancelled j)).nameOf i = e.nameOf i := by
  unfold nameOf
  rw [act_step_walkers]
  split
  · rw [Option.map_map]
    congr 2
    funext w
    exact stepWalker_id e cancelled w
  · rfl

/-- Several steps change neither the policy nor a name. -/
theorem stepMany_keeps (cancelled : Bool) (i : Nat) (limit : Nat) :
    ∀ e : Engine, (stepMany cancelled i limit e).1.haltOnError = e.haltOnError ∧
      ∀ j, (stepMany cancelled i limit e).1.nameOf j = e.nameOf j := by
  induction limit with
  | zero => exact fun e => ⟨rfl, fun _ => rfl⟩
  | succ limit ih =>
    intro e
    unfold stepMany
    cases hs : e.step cancelled i with
    | none => exact ⟨rfl, fun _ => rfl⟩
    | some r =>
      obtain ⟨e', outcome⟩ := r
      obtain ⟨-, -, rfl, -, -⟩ := step_eq_some hs
      have hh := act_haltOnError e (.step cancelled i)
      have hn := act_step_nameOf e cancelled i
      obtain ⟨hh', hn'⟩ := ih (e.act (.step cancelled i))
      simp only
      split
      · exact ⟨hh'.trans hh, fun j => (hn' j).trans (hn j)⟩
      · exact ⟨hh, hn⟩

end Engine

namespace Group

open Engine (stepMany runEach)

variable {e : Engine} {g g' : Group} {workers i fuel : Nat} {ws : List Nat}

theorem run_append (ms ms' : List Move) :
    ∀ g : Group, g.run workers ws (ms ++ ms') =
      (g.run workers ws ms).bind (·.run workers ws ms') := by
  induction ms with
  | nil => exact fun _ => rfl
  | cons m ms ih =>
    intro g
    show (g.next workers ws m).bind _ = ((g.next workers ws m).bind _).bind _
    rw [Option.bind_assoc]
    exact congrArg _ (funext ih)

theorem run_single {m : Move} (h : g.next workers ws m = some g') :
    g.run workers ws [m] = some g' := by
  simp only [run, h, Option.bind_some]

theorem run_trans {ms ms' : List Move} {g'' : Group} (h : g.run workers ws ms = some g')
    (h' : g'.run workers ws ms' = some g'') : g.run workers ws (ms ++ ms') = some g'' := by
  rw [run_append, h]
  exact h'

theorem next_step {faults : List Fault} (hj : g.job i = .running faults) {e' : Engine}
    {outcome : StepOutcome} (hs : g.engine.step g.isCancelled i = some (e', outcome)) :
    g.next workers ws (.step i) = some { g with
      engine := e'
      job := Function.update g.job i (if outcome.kind = .moved
        then .running (faults ++ outcome.fault.toList)
        else .returned (faults ++ outcome.fault.toList))
      steps := g.steps ++ [⟨i, g.isCancelled, outcome⟩] } := by
  simp only [next, hj, stepped, hs, Option.map_some]

/-- The steps of one job, made without a break. -/
theorem steps_run (workers : Nat) (ws : List Nat) (fuel : Nat) :
    ∀ {g : Group} {faults : List Fault}, g.job i = .running faults →
      (∃ o, (stepMany g.isCancelled i fuel g.engine).2.getLast? = some o ∧ o.kind ≠ .moved) →
      ∃ ms g', g.run workers ws ms = some g' ∧
        g'.engine = (stepMany g.isCancelled i fuel g.engine).1 ∧
        g'.job = Function.update g.job i (.returned (faults ++
          (stepMany g.isCancelled i fuel g.engine).2.filterMap (·.fault))) ∧
        g'.first = g.first ∧ g'.collected = g.collected := by
  induction fuel with
  | zero =>
    rintro g faults - ⟨o, ho, -⟩
    cases ho
  | succ fuel ih =>
    intro g faults hj hfin
    unfold stepMany at hfin ⊢
    cases hs : g.engine.step g.isCancelled i with
    | none =>
      obtain ⟨o, ho, -⟩ := hfin
      rw [hs] at ho
      cases ho
    | some r =>
      obtain ⟨e', outcome⟩ := r
      rw [hs] at hfin
      have hnext : g.next workers ws (.step i) = some _ := next_step hj hs
      simp only at hfin ⊢
      by_cases hm : outcome.kind = .moved
      · -- the walker goes on, with the fault of this step added to those before
        simp only [if_pos hm] at hfin hnext ⊢
        obtain ⟨o, ho, hk⟩ := hfin
        have hrest : ∃ o, (stepMany g.isCancelled i fuel e').2.getLast? = some o ∧
            o.kind ≠ .moved := by
          cases hos : (stepMany g.isCancelled i fuel e').2 with
          | nil =>
            rw [hos] at ho
            cases ho
            exact absurd hm hk
          | cons o' os =>
            rw [hos, List.getLast?_cons_cons] at ho
            exact ⟨o, ho, hk⟩
        let g₁ : Group := { g with
          engine := e'
          job := Function.update g.job i (.running (faults ++ outcome.fault.toList))
          steps := g.steps ++ [⟨i, g.isCancelled, outcome⟩] }
        obtain ⟨ms, g', hrun, hengine, hjob, hfirst, hcollected⟩ :=
          ih (g := g₁) (Function.update_self i _ g.job) hrest
        refine ⟨[.step i] ++ ms, g', run_trans (run_single hnext) hrun, hengine, ?_, hfirst,
          hcollected⟩
        rw [hjob, Function.update_idem, List.append_assoc, List.filterMap_cons]
        cases outcome.fault <;> rfl
      · simp only [if_neg hm] at hnext ⊢
        refine ⟨[.step i], _, run_single hnext, rfl, ?_, rfl, rfl⟩
        cases hf : outcome.fault <;> simp [hf]

/-- **One job**, from its start to its end. -/
theorem job_run (workers : Nat) (hi : ws.find? (fun j => (g.job j).isWaiting) = some i)
    (hfree : ws.countP (fun j => (g.job j).isActive) = 0)
    (hfin : ∃ o, (stepMany g.isCancelled i fuel g.engine).2.getLast? = some o ∧ o.kind ≠ .moved) :
    ∃ ms g', g.run workers ws ms = some g' ∧
      g'.engine = (g.engine.run fuel g.isCancelled i).1 ∧
      g'.job = Function.update g.job i .done ∧
      g'.first = (if g.engine.haltOnError then g.first.or (g.engine.noted fuel g.isCancelled i)
        else g.first) ∧
      g'.collected = (if g.engine.haltOnError then g.collected
        else g.collected ++ (g.engine.noted fuel g.isCancelled i).toList) := by
  let started : Group := { g with job := Function.update g.job i (.running []) }
  have hstart : g.next workers ws (.start i) = some started := by
    simp only [next]
    rw [if_pos ⟨hi, by rw [hfree]; exact lt_of_lt_of_le Nat.one_pos (le_max_left 1 workers)⟩]
  obtain ⟨ms, g₁, hrun, hengine, hjob, hfirst, hcollected⟩ := steps_run workers ws
    (g := started) fuel (Function.update_self i _ g.job) hfin
  have hjob : g₁.job = Function.update g.job i (.returned
      ((stepMany g.isCancelled i fuel g.engine).2.filterMap (·.fault))) := by
    rw [hjob]
    exact Function.update_idem _ _ _
  have hhand : g₁.next workers ws (.handIn i) = some (g₁.handedIn i
      ((stepMany g.isCancelled i fuel g.engine).2.filterMap (·.fault))) := by
    simp only [next, hjob, Function.update_self]
  obtain ⟨hhalt, hname⟩ := Engine.stepMany_keeps g.isCancelled i fuel g.engine
  have hid : ((g₁.engine.walkers[i]?).map (·.id)).getD "" = g.engine.nameOf i := by
    rw [hengine]
    exact hname i
  refine ⟨[.start i] ++ (ms ++ [.handIn i]), _,
    run_trans (run_single hstart) (run_trans hrun (run_single hhand)), ?_⟩
  unfold handedIn Engine.noted Engine.run
  simp only [hid]
  cases Fault.join? ((stepMany g.isCancelled i fuel g.engine).2.filterMap (·.fault)) with
  | none =>
    refine ⟨hengine, ?_, ?_, ?_⟩
    · rw [hjob, Function.update_idem]
    · simp [hfirst, started]
    · simp [hcollected, started]
  | some f =>
    have hpolicy : g₁.engine.haltOnError = g.engine.haltOnError := by rw [hengine]; exact hhalt
    simp only [hpolicy]
    split
    · refine ⟨hengine, ?_, ?_, hcollected⟩
      · simp only [hjob, Function.update_idem]
      · simp only [hfirst, started, Option.map_some]
    · refine ⟨hengine, ?_, hfirst, ?_⟩
      · simp only [hjob, Function.update_idem]
      · simp only [hcollected, started, Option.map_some, Option.toList_some]

/-- The walkers that are left, one after the other. -/
theorem jobs_run (workers : Nat) (rest : List Nat) :
    ∀ {g : Group} {pre : List Nat}, ws = pre ++ rest → ws.Nodup → (∀ i ∈ pre, g.job i = .done) →
      (∀ i ∈ rest, g.job i = .waiting) → Engine.Finishes fuel g.isCancelled rest g.engine →
      ∃ ms g', g.run workers ws ms = some g' ∧ (∀ i ∈ ws, g'.job i = .done) ∧
        g'.engine = (runEach fuel g.isCancelled rest g.engine).1 ∧
        g'.first = (if g.engine.haltOnError
          then g.first.or (runEach fuel g.isCancelled rest g.engine).2.head? else g.first) ∧
        g'.collected = (if g.engine.haltOnError then g.collected
          else g.collected ++ (runEach fuel g.isCancelled rest g.engine).2) := by
  induction rest with
  | nil =>
    intro g pre hws hnodup hdone _ _
    refine ⟨[], g, rfl, ?_, rfl, ?_, ?_⟩
    · simpa [hws] using hdone
    · simp [runEach]
    · simp [runEach]
  | cons i rest ih =>
    intro g pre hws hnodup hdone hwaiting hfin
    have hi : g.job i = .waiting := hwaiting i List.mem_cons_self
    have hfind : ws.find? (fun j => (g.job j).isWaiting) = some i := by
      rw [hws, List.find?_append,
        List.find?_eq_none.2 fun j hj => by simp [hdone j hj, WalkerJob.isWaiting]]
      simp [hi, WalkerJob.isWaiting]
    have hfree : ws.countP (fun j => (g.job j).isActive) = 0 := by
      rw [List.countP_eq_zero, hws]
      intro j hj
      rcases List.mem_append.1 hj with hj | hj
      · simp [hdone j hj, WalkerJob.isActive]
      · simp [hwaiting j hj, WalkerJob.isActive]
    obtain ⟨ms, g₁, hrun, hengine, hjob, hfirst, hcollected⟩ :=
      job_run workers hfind hfree hfin.1
    have hhalt : g₁.engine.haltOnError = g.engine.haltOnError := by
      rw [hengine]
      exact (Engine.stepMany_keeps g.isCancelled i fuel g.engine).1
    have hcancelled : g₁.isCancelled = g.engine.cancelledAfter fuel g.isCancelled i := by
      unfold isCancelled Engine.cancelledAfter
      rw [hfirst]
      cases g.engine.haltOnError
      · simp only [Bool.false_eq_true, if_false, Bool.false_and, Bool.or_false, isCancelled]
      · simp only [if_true, Option.isSome_or, Engine.noted, Option.isSome_map, Bool.true_and,
          isCancelled]
    have hkept : ∀ j, j ≠ i → g₁.job j = g.job j := fun j hj => by
      rw [hjob, Function.update_of_ne hj]
    have hnot : i ∉ rest ∧ i ∉ pre := by
      rw [hws, List.nodup_append] at hnodup
      exact ⟨(List.nodup_cons.1 hnodup.2.1).1,
        fun hm => hnodup.2.2 i hm i List.mem_cons_self rfl⟩
    obtain ⟨ms', g', hrun', hall, hengine', hfirst', hcollected'⟩ :=
      ih (g := g₁) (show ws = (pre ++ [i]) ++ rest by rw [hws, List.append_assoc]; rfl) hnodup
        (fun j hj => by
          rcases List.mem_append.1 hj with hj | hj
          · rw [hkept j (fun h => hnot.2 (h ▸ hj)), hdone j hj]
          · rw [List.mem_singleton.1 hj, hjob, Function.update_self])
        (fun j hj => by
          rw [hkept j (fun h => hnot.1 (h ▸ hj)), hwaiting j (List.mem_cons_of_mem i hj)])
        (by rw [hcancelled, hengine]; exact hfin.2)
    rw [hhalt, hcancelled, hengine] at hfirst' hcollected'
    rw [hcancelled, hengine] at hengine'
    refine ⟨ms ++ ms', g', run_trans hrun hrun', hall, ?_, ?_, ?_⟩
    · rw [hengine', Engine.runEach_cons]
    · rw [hfirst', hfirst, Engine.runEach_cons]
      cases g.engine.haltOnError
      · rfl
      · cases g.engine.noted fuel g.isCancelled i <;> simp
    · rw [hcollected', hcollected, Engine.runEach_cons]
      cases g.engine.haltOnError <;> simp

/-- **`runAll` is a schedule**: what it returns is what a group returns in which no walker is
started before the one before it is done. -/
theorem runAll_schedule (e : Engine) (workers : Nat) (hnodup : ws.Nodup)
    (hfin : Engine.Finishes fuel false ws (gather e workers ws).engine) :
    ∃ ms g, (gather e workers ws).run workers ws ms = some g ∧ (∀ i ∈ ws, g.job i = .done) ∧
      e.runAll fuel false workers ws = (g.engine, g.result) := by
  obtain ⟨ms, g, hrun, hall, hengine, hfirst, hcollected⟩ := jobs_run workers ws
    (g := gather e workers ws) (show ws = [] ++ ws from rfl) hnodup (fun _ h => nomatch h)
    (fun _ _ => rfl) hfin
  refine ⟨ms, g, hrun, hall, ?_⟩
  unfold result
  rw [hengine, hfirst, hcollected]
  have hall : e.runAll fuel false workers ws =
      ((runEach fuel false ws (gather e workers ws).engine).1, if e.haltOnError
        then (runEach fuel false ws (gather e workers ws).engine).2.head?
        else Fault.join? (runEach fuel false ws (gather e workers ws).engine).2) := rfl
  have hhalt : (gather e workers ws).engine.haltOnError = e.haltOnError := rfl
  rw [hall, hhalt]
  cases e.haltOnError
  · rfl
  · exact congrArg _ (Option.or_none).symm

end Group

end GraphWalk
