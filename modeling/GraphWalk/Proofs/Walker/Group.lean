import GraphWalk.Proofs.Walker.Outcome
import GraphWalk.Proofs.Walker.Told

/-!
# Walkers that are run together

A `Group` runs walkers on a number of workers. Each walker is stepped by a job of its own
until it does not move on; then the faults of its steps are handed in. If faults halt the
engine, the first job that hands in a fault cancels the group, and later steps are cancelled;
otherwise the faults are collected. `Group.next` is what one job can do at a time, and a
schedule is a list of such moves, in any order. A step is one move: jobs take turns between
steps, and steps that overlap in time are not modelled.

`Group.OK` is the invariant. `next_ok` keeps it along one move and `run_ok` along a schedule.

Main result: `returned_of_schedule`. **In whichever order the jobs are done**, no fault is lost
and every walker has ended, or the group was cancelled and the walker is only paused, with the
engine as if the cancelled steps had not been tried.
-/

namespace GraphWalk

/-- A fault is among the causes of another one, at any depth. -/
inductive Fault.Wraps : Fault → Fault → Prop where
  | refl (f : Fault) : Wraps f f
  | within {cause f : Fault} (label : String) (h : Wraps cause f) : Wraps (.within label cause) f
  | ability {cause f : Fault} (path : Path) (event : Event) (position : Handle)
      (h : Wraps cause f) : Wraps (.ability path event position cause) f
  | joined {cause f : Fault} {causes : List Fault} (hm : cause ∈ causes) (h : Wraps cause f) :
      Wraps (.joined causes) f
  | resolution {cause f : Fault} {causes : List Fault} (hm : cause ∈ causes) (h : Wraps cause f) :
      Wraps (.resolution causes) f

theorem Fault.join?_eq_none {fs : List Fault} : Fault.join? fs = none ↔ fs = [] := by
  cases fs <;> simp [Fault.join?]

/-- Faults that are joined are all kept. -/
theorem Fault.wraps_join? {fs : List Fault} {f r : Fault} (hr : Fault.join? fs = some r)
    {c : Fault} (hm : c ∈ fs) (hc : c.Wraps f) : r.Wraps f := by
  cases fs with
  | nil => cases hm
  | cons c' fs =>
    cases hr
    exact .joined hm hc

/-- What is being done for one walker of a group. -/
inductive WalkerJob where
  | waiting
  /-- The walker is stepped; these faults have come up so far. -/
  | running (faults : List Fault)
  /-- The walker does not move on, and its faults are still to be handed in. -/
  | returned (faults : List Fault)
  | done

namespace WalkerJob

def isWaiting : WalkerJob → Bool
  | .waiting => true
  | _ => false

/-- Whether the job takes up a worker. -/
def isActive : WalkerJob → Bool
  | .running _ | .returned _ => true
  | _ => false

/-- Whether the last step has been made. -/
def hasReturned : WalkerJob → Bool
  | .returned _ | .done => true
  | _ => false

end WalkerJob

/-- A step that was made for a group. -/
structure GroupStep where
  walker : Nat
  /-- Whether the group was cancelled by then. -/
  cancelled : Bool
  outcome : StepOutcome

structure Group where
  engine : Engine
  job : Nat → WalkerJob
  /-- The fault that has cancelled the group. -/
  first : Option Fault
  /-- The faults that were handed in without cancelling the group. -/
  collected : List Fault
  /-- The steps made so far, in order. -/
  steps : List GroupStep

namespace Group

inductive Move where
  /-- A free worker takes on the next walker. -/
  | start (i : Nat)
  | step (i : Nat)
  /-- The faults of a walker that does not move on are handed in. -/
  | handIn (i : Nat)

/-- All jobs are still to be done. -/
def gather (e : Engine) (workers : Nat) (ws : List Nat) : Group :=
  { engine := e.logged ⟨.debug, "Running walkers.", [("walkers", .count ws.length),
      ("workers", .count (if workers = 0 then 1 else workers))]⟩
    job := fun _ => .waiting, first := none, collected := [], steps := [] }

def isCancelled (g : Group) : Bool := g.first.isSome

/-- A step of the walker, which has met `faults` before. -/
def stepped (g : Group) (i : Nat) (faults : List Fault) : Option Group :=
  (g.engine.step g.isCancelled i).map fun (e, outcome) =>
    let met := faults ++ outcome.fault.toList
    { g with
      engine := e
      job := Function.update g.job i (if outcome.kind = .moved then .running met else .returned met)
      steps := g.steps ++ [⟨i, g.isCancelled, outcome⟩] }

/-- The faults of a walker are handed in as one. -/
def handedIn (g : Group) (i : Nat) (faults : List Fault) : Group :=
  let g := { g with job := Function.update g.job i .done }
  match Fault.join? faults with
  | none => g
  | some f =>
    let f := Fault.within ("walker " ++ ((g.engine.walkers[i]?).map (·.id)).getD "") f
    if g.engine.haltOnError then { g with first := g.first.or (some f) }
    else { g with collected := g.collected ++ [f] }

/-- What a move does, if it can be made. Walkers are taken on in order, and only while a worker
is free. -/
def next (workers : Nat) (ws : List Nat) (g : Group) : Move → Option Group
  | .start i =>
    if ws.find? (fun j => (g.job j).isWaiting) = some i ∧
        ws.countP (fun j => (g.job j).isActive) < max 1 workers then
      some { g with job := Function.update g.job i (.running []) }
    else none
  | .step i => match g.job i with
    | .running faults => g.stepped i faults
    | _ => none
  | .handIn i => match g.job i with
    | .returned faults => some (g.handedIn i faults)
    | _ => none

/-- Makes the moves of a schedule, if they can be made. -/
def run (workers : Nat) (ws : List Nat) : Group → List Move → Option Group
  | g, [] => some g
  | g, m :: ms => (g.next workers ws m).bind (run workers ws · ms)

/-- What the group returns when all jobs are done. -/
def result (g : Group) : Option Fault := g.first.or (Fault.join? g.collected)

/-- The steps that were not cancelled, as commands. -/
def taken (g : Group) : List Engine.Command :=
  (g.steps.filter (!·.cancelled)).map fun s => .step false s.walker

/-- The faults that the steps of a walker have met, in order. -/
def faultsOf (g : Group) (i : Nat) : List Fault :=
  (g.steps.filter (·.walker = i)).filterMap (·.outcome.fault)

end Group

namespace Engine

variable {e : Engine} {w : Walker} {i : Nat}

/-- No step changes the policy. -/
theorem stepWalker_haltOnError (e : Engine) (cancelled : Bool) (w : Walker) :
    (e.stepWalker cancelled w).1.engine.haltOnError = e.haltOnError := by
  by_cases hr : w.state.isTerminal = true ∨ cancelled = true
  · rw [(stepWalker_rests hr).1]
  · obtain ⟨ha, hc⟩ := not_or.1 hr
    rw [Bool.not_eq_true] at ha hc
    subst hc
    have kept : Visit.Accrues (β := Unit) (fun _ _ _ _ => [])
        fun _ v v' => v'.engine.haltOnError = v.engine.haltOnError :=
      { refl := fun _ => rfl
        trans := fun h h' => h'.trans h
        answer := fun _ _ _ r => (Visit.answer_quiet r).haltOnError
        announced := fun _ _ _ _ _ => rfl
        logged := fun _ _ => rfl
        table := fun _ _ => rfl }
    cases hi : e.store.instanceAt w.position with
    | error err =>
      rw [stepWalker_eq_finish ha hi]
      unfold worked
      rw [hi]
      rfl
    | ok inst =>
      obtain ⟨invoked, cause, hclose⟩ := stepWalker_eq_close ha hi
      rw [hclose, (Visit.close_settles _ _ _).haltOnError]
      exact worked_accrues kept ha hi

/-- No command changes the policy. -/
theorem act_haltOnError (e : Engine) (c : Command) : (e.act c).haltOnError = e.haltOnError := by
  cases c with
  | spawn a start args =>
    simp only [act]
    cases hs : e.spawn a start args with
    | error f => rfl
    | ok r =>
      obtain ⟨e', w⟩ := r
      obtain ⟨fields, s, -, -, -, rfl⟩ := spawn_eq_ok hs
      rfl
  | step cancelled i =>
    rw [act_step]
    cases e.walkers[i]? with
    | none => rfl
    | some w => exact stepWalker_haltOnError e cancelled w
  | edit ed => rfl

theorem acts_haltOnError (cs : List Command) :
    ∀ e : Engine, (e.acts cs).haltOnError = e.haltOnError := by
  induction cs with
  | nil => exact fun _ => rfl
  | cons c cs ih => exact fun e => (ih (e.act c)).trans (act_haltOnError e c)

/-- **A step that does not move the walker on** leaves it ended. -/
theorem stepWalker_ended (h : (e.stepWalker false w).2.kind ≠ .moved) :
    (e.stepWalker false w).1.walker.state.isTerminal = true := by
  cases ha : w.state.isTerminal with
  | true => rwa [(stepWalker_rests (Or.inl ha)).1]
  | false =>
    cases hi : e.store.instanceAt w.position with
    | error err =>
      rw [stepWalker_eq_finish ha hi]
      rfl
    | ok inst =>
      obtain ⟨invoked, cause, hclose⟩ := stepWalker_eq_close ha hi
      rw [hclose] at h ⊢
      cases Visit.close_closed (e.worked w) invoked cause with
      | disengaged _ _ hs => rw [hs]; rfl
      | failed _ _ _ _ hs => rw [hs]; rfl
      | moved _ _ _ hk _ => exact absurd hk h
      | completed _ _ _ _ hs => rw [hs]; rfl

/-- A cancelled step changes nothing. -/
theorem act_step_cancelled (e : Engine) (i : Nat) : e.act (.step true i) = e := by
  rw [act_step]
  cases hw : e.walkers[i]? with
  | none => rfl
  | some w =>
    obtain ⟨hi, rfl⟩ := List.getElem?_eq_some_iff.1 hw
    simp only [(stepWalker_rests (e := e) (Or.inr rfl)).1, List.set_getElem_self]

/-- What a step of a walker by its number is. -/
theorem step_eq_some {cancelled : Bool} {e' : Engine} {outcome : StepOutcome}
    (h : e.step cancelled i = some (e', outcome)) :
    ∃ w, e.walkers[i]? = some w ∧ e' = e.act (.step cancelled i) ∧
      outcome = (e.stepWalker cancelled w).2 ∧
      e'.walkers[i]? = some (e.stepWalker cancelled w).1.walker := by
  have hact : e' = e.act (.step cancelled i) := by
    simp only [act, h]
  obtain ⟨w, hw, heq⟩ := Option.map_eq_some_iff.1 h
  refine ⟨w, hw, hact, (Prod.ext_iff.1 heq).2.symm, ?_⟩
  rw [hact, act_step_walkers, if_pos rfl, hw]
  rfl

/-- Commands one after the other. -/
theorem acts_append (e : Engine) (cs ds : List Command) :
    e.acts (cs ++ ds) = (e.acts cs).acts ds := List.foldl_append

end Engine

namespace Group

open Engine (new)

variable {e : Engine} {g g' : Group} {workers i : Nat} {ws : List Nat}

/-- **The invariant** of a group that was gathered with engine `e`. -/
structure OK (e : Engine) (ws : List Nat) (g : Group) : Prop where
  /-- Cancelled steps have left no trace in the engine. -/
  engine : g.engine = e.acts g.taken
  policy : g.engine.haltOnError = e.haltOnError
  started : ∀ i, (g.job i).isWaiting = false → i ∈ ws
  walkers : ∀ s ∈ g.steps, s.walker ∈ ws
  unstepped : ∀ i, g.job i = .waiting → g.faultsOf i = []
  /-- A job knows the faults of its walker. -/
  faults : ∀ i fs, g.job i = .running fs ∨ g.job i = .returned fs → fs = g.faultsOf i
  /-- Only in a cancelled group a walker is left that has not ended. -/
  ended : ∀ i, (g.job i).hasReturned = true → ∃ w, g.engine.walkers[i]? = some w ∧
    (w.state.isTerminal = false → g.first.isSome = true)
  cancelled : ∀ s ∈ g.steps, s.cancelled = true → g.first.isSome = true
  /-- A group is not cancelled for nothing. -/
  cause : g.first.isSome = true → ∃ s ∈ g.steps, s.cancelled = false ∧ s.outcome.fault.isSome = true
  collected : g.collected ≠ [] → ∃ s ∈ g.steps, s.outcome.fault.isSome = true
  halting : e.haltOnError = true → g.collected = []
  continuing : e.haltOnError = false → g.first = none
  /-- What a walker has met is not lost when its job is done. -/
  handed : ∀ i, g.job i = .done → ∀ f ∈ g.faultsOf i,
    g.first.isSome = true ∨ ∃ c ∈ g.collected, c.Wraps f

theorem mem_faultsOf {f : Fault} :
    f ∈ g.faultsOf i ↔ ∃ s ∈ g.steps, s.walker = i ∧ s.outcome.fault = some f := by
  unfold faultsOf
  rw [List.mem_filterMap]
  simp only [List.mem_filter, decide_eq_true_eq, and_assoc]

/-- When a group is gathered, no step has been made. -/
theorem gather_ok (e : Engine) (workers : Nat) (ws : List Nat) :
    (gather e workers ws).OK (gather e workers ws).engine ws := by
  refine ⟨rfl, rfl, fun i h => ?_, fun s hm => ?_, fun _ _ => rfl, fun i fs h => ?_, fun i h => ?_,
    fun s hm => ?_, fun h => ?_, fun h => absurd rfl h, fun _ => rfl, fun _ => rfl, fun i h => ?_⟩
  · cases h
  · cases hm
  · rcases h with h | h <;> cases h
  · cases h
  · cases hm
  · cases h
  · cases h

/-- A free worker takes on a walker. -/
theorem OK.start (ok : g.OK e ws) (hw : g.job i = .waiting) (hi : i ∈ ws) :
    ({ g with job := Function.update g.job i (.running []) } : Group).OK e ws := by
  -- for every other walker the job is what it was
  have other : ∀ {j : Nat} {job : WalkerJob}, Function.update g.job i (.running []) j = job →
      job ≠ .running [] → g.job j = job := by
    intro j job h hne
    by_cases hij : j = i
    · subst hij
      rw [Function.update_self] at h
      exact absurd h.symm hne
    · rwa [Function.update_of_ne hij] at h
  refine ⟨ok.engine, ok.policy, fun j h => ?_, ok.walkers,
    fun j h => ok.unstepped j (other h nofun), fun j fs h => ?_, fun j h => ?_, ok.cancelled,
    ok.cause, ok.collected, ok.halting, ok.continuing, fun j h => ok.handed j (other h nofun)⟩
  · by_cases hij : j = i
    · rwa [hij]
    · simp only [Function.update_of_ne hij] at h
      exact ok.started j h
  · by_cases hij : j = i
    · subst hij
      simp only [Function.update_self] at h
      rcases h with h | h
      · cases h
        exact (ok.unstepped j hw).symm
      · cases h
    · simp only [Function.update_of_ne hij] at h
      exact ok.faults j fs h
  · by_cases hij : j = i
    · subst hij
      simp only [Function.update_self] at h
      cases h
    · simp only [Function.update_of_ne hij] at h
      exact ok.ended j h

/-- One step more, unless it was cancelled. -/
theorem taken_snoc {s : GroupStep} (hs : g'.steps = g.steps ++ [s]) :
    g'.taken = g.taken ++ if s.cancelled then [] else [.step false s.walker] := by
  unfold taken
  rw [hs, List.filter_append, List.map_append]
  cases h : s.cancelled <;> simp [h]

/-- One step more adds its fault to those of its walker. -/
theorem faultsOf_snoc {s : GroupStep} (hs : g'.steps = g.steps ++ [s]) (i : Nat) :
    g'.faultsOf i = g.faultsOf i ++ if s.walker = i then s.outcome.fault.toList else [] := by
  unfold faultsOf
  rw [hs, List.filter_append, List.filterMap_append]
  by_cases h : s.walker = i
  · cases hf : s.outcome.fault <;> simp [h, hf]
  · simp [h]

/-- **A step** adds its fault to those of its walker, and leaves the other walkers alone. -/
theorem OK.step (ok : g.OK e ws) {faults : List Fault} (hj : g.job i = .running faults)
    (hs : g.stepped i faults = some g') : g'.OK e ws := by
  obtain ⟨⟨e', outcome⟩, hstep, hg⟩ := Option.map_eq_some_iff.1 hs
  simp only at hg
  obtain ⟨w, hw, he', houtcome, hafter⟩ := Engine.step_eq_some hstep
  have hi : i ∈ ws := ok.started i (by rw [hj]; rfl)
  have hsteps : g'.steps = g.steps ++ [⟨i, g.isCancelled, outcome⟩] := by rw [← hg]
  have htaken := taken_snoc hsteps
  have hfaults := faultsOf_snoc hsteps
  subst hg
  -- the job of the walker runs on or has returned, every other one is what it was
  have other : ∀ {j : Nat}, j ≠ i → Function.update g.job i (if outcome.kind = .moved then
      .running (faults ++ outcome.fault.toList) else .returned (faults ++ outcome.fault.toList)) j =
      g.job j := fun hij => Function.update_of_ne hij _ _
  have others : ∀ j, j ≠ i → e'.walkers[j]? = g.engine.walkers[j]? := fun j hij => by
    rw [he', Engine.act_step_walkers, if_neg (Ne.symm hij)]
  refine ⟨?_, ?_, fun j h => ?_, fun s hm => ?_, fun j h => ?_, fun j fs h => ?_, fun j h => ?_,
    fun s hm hc => ?_, fun h => ?_, fun h => ?_, ok.halting, ok.continuing, fun j h f hf => ?_⟩
  · rw [htaken, Engine.acts_append, ← ok.engine]
    simp only [he']
    cases hc : g.isCancelled
    · rfl
    · exact Engine.act_step_cancelled g.engine i
  · simp only [he', Engine.act_haltOnError]
    exact ok.policy
  · by_cases hij : j = i
    · rwa [hij]
    · simp only [other hij] at h
      exact ok.started j h
  · rcases List.mem_append.1 hm with hm | hm
    · exact ok.walkers s hm
    · cases List.mem_singleton.1 hm
      exact hi
  · have hij : j ≠ i := by
      rintro rfl
      simp only [Function.update_self] at h
      split at h <;> cases h
    simp only [other hij] at h
    rw [hfaults, if_neg (Ne.symm hij), List.append_nil]
    exact ok.unstepped j h
  · rw [hfaults]
    by_cases hij : j = i
    · subst hij
      have hfs : fs = faults ++ outcome.fault.toList := by
        simp only [Function.update_self] at h
        split at h <;> rcases h with h | h <;> cases h <;> rfl
      rw [hfs, if_pos rfl, ← ok.faults j faults (Or.inl hj)]
    · simp only [other hij] at h
      rw [if_neg (Ne.symm hij), List.append_nil]
      exact ok.faults j fs h
  · by_cases hij : j = i
    · subst hij
      refine ⟨_, hafter, fun ha => ?_⟩
      have hkind : outcome.kind ≠ .moved := by
        intro hk
        simp only [Function.update_self, hk, if_true] at h
        cases h
      -- a step that is not cancelled would have ended the walker
      cases hc : g.isCancelled with
      | true => exact hc
      | false =>
        rw [hc] at houtcome ha
        rw [houtcome] at hkind
        rw [Engine.stepWalker_ended hkind] at ha
        cases ha
    · simp only [other hij] at h
      obtain ⟨x, hx, hend⟩ := ok.ended j h
      exact ⟨x, (others j hij).trans hx, hend⟩
  · rcases List.mem_append.1 hm with hm | hm
    · exact ok.cancelled s hm hc
    · cases List.mem_singleton.1 hm
      exact hc
  · obtain ⟨s, hm, hs⟩ := ok.cause h
    exact ⟨s, List.mem_append_left _ hm, hs⟩
  · obtain ⟨s, hm, hs⟩ := ok.collected h
    exact ⟨s, List.mem_append_left _ hm, hs⟩
  · have hij : j ≠ i := by
      rintro rfl
      simp only [Function.update_self] at h
      split at h <;> cases h
    simp only [other hij] at h
    rw [hfaults, if_neg (Ne.symm hij), List.append_nil] at hf
    exact ok.handed j h f hf

/-- A job that is done with nothing more to say. -/
theorem OK.finish (ok : g.OK e ws) {faults : List Fault} (hj : g.job i = .returned faults)
    {first : Option Fault} {collected : List Fault}
    (hfirst : g.first.isSome = true → first.isSome = true)
    (hcollected : ∀ c ∈ g.collected, c ∈ collected)
    (hcause : first.isSome = true → g.first.isSome = true ∨ faults ≠ [])
    (hfaults : collected ≠ [] → g.collected ≠ [] ∨ faults ≠ [])
    (halting : e.haltOnError = true → collected = [])
    (continuing : e.haltOnError = false → first = none)
    (handed : ∀ f ∈ faults, first.isSome = true ∨ ∃ c ∈ collected, c.Wraps f) :
    ({ g with job := Function.update g.job i .done, first, collected } : Group).OK e ws := by
  have hmet := ok.faults i faults (Or.inr hj)
  have hi : i ∈ ws := ok.started i (by rw [hj]; rfl)
  have other : ∀ {j : Nat} {job : WalkerJob}, Function.update g.job i .done j = job → job ≠ .done →
      g.job j = job := by
    intro j job h hne
    by_cases hij : j = i
    · subst hij
      rw [Function.update_self] at h
      exact absurd h.symm hne
    · rwa [Function.update_of_ne hij] at h
  -- the faults of the walker are those of its steps
  have met : faults ≠ [] → ∃ s ∈ g.steps, s.outcome.fault.isSome = true := by
    intro hne
    obtain ⟨f, hf⟩ := List.exists_mem_of_ne_nil faults hne
    rw [hmet] at hf
    obtain ⟨s, hm, -, hs⟩ := mem_faultsOf.1 hf
    exact ⟨s, hm, by rw [hs]; rfl⟩
  refine ⟨ok.engine, ok.policy, fun j h => ?_, ok.walkers,
    fun j h => ok.unstepped j (other h nofun),
    fun j fs h => ok.faults j fs (h.imp (other · nofun) (other · nofun)), fun j h => ?_,
    fun s hm hc => hfirst (ok.cancelled s hm hc), fun h => ?_, fun h => ?_, halting, continuing,
    fun j h f hf => ?_⟩
  · by_cases hij : j = i
    · rwa [hij]
    · simp only [Function.update_of_ne hij] at h
      exact ok.started j h
  · have hret : (g.job j).hasReturned = true := by
      by_cases hij : j = i
      · rw [hij, hj]; rfl
      · simpa only [Function.update_of_ne hij] using h
    obtain ⟨w, hw, hend⟩ := ok.ended j hret
    exact ⟨w, hw, fun ha => hfirst (hend ha)⟩
  · -- as long as the group is not cancelled, no step is
    cases hc : g.first.isSome with
    | true => exact ok.cause hc
    | false =>
      have hne := (hcause h).resolve_left (by rw [hc]; exact Bool.false_ne_true)
      obtain ⟨s, hm, hs⟩ := met hne
      refine ⟨s, hm, ?_, hs⟩
      rw [Bool.eq_false_iff]
      intro hcan
      rw [ok.cancelled s hm hcan] at hc
      cases hc
  · exact (hfaults h).elim ok.collected met
  · by_cases hij : j = i
    · subst hij
      exact handed f (by rw [hmet]; exact hf)
    · simp only [Function.update_of_ne hij] at h
      exact (ok.handed j h f hf).imp hfirst fun ⟨c, hm, hc⟩ => ⟨c, hcollected c hm, hc⟩

/-- **Handing in** cancels the group or adds to what is collected, if there is a fault. -/
theorem OK.handIn (ok : g.OK e ws) {faults : List Fault} (hj : g.job i = .returned faults) :
    (g.handedIn i faults).OK e ws := by
  unfold handedIn
  simp only
  cases hjoin : Fault.join? faults with
  | none =>
    have hnil := Fault.join?_eq_none.1 hjoin
    exact ok.finish hj id (fun c hc => hc) Or.inl Or.inl ok.halting ok.continuing
      fun f hf => by rw [hnil] at hf; cases hf
  | some r =>
    -- there is a fault, and what is handed in wraps all that the walker has met
    have hne : faults ≠ [] := fun h => by rw [Fault.join?_eq_none.2 h] at hjoin; cases hjoin
    have hwraps : ∀ f ∈ faults, r.Wraps f := fun f hf => Fault.wraps_join? hjoin hf (.refl f)
    simp only [ok.policy]
    split
    · rename_i hh
      refine ok.finish hj (fun h => ?_) (fun c hc => hc) (fun _ => Or.inr hne) Or.inl ok.halting
        (fun h => by rw [hh] at h; cases h) fun f hf => Or.inl ?_
      · simp
      · simp
    · rename_i hh
      refine ok.finish hj id (fun c hc => List.mem_append_left _ hc) Or.inl (fun _ => Or.inr hne)
        (fun h => absurd h hh) ok.continuing fun f hf => Or.inr ?_
      exact ⟨.within _ r, List.mem_append_right _ (List.mem_singleton_self _),
        .within _ (hwraps f hf)⟩

/-- **One move keeps the invariant.** -/
theorem next_ok (ok : g.OK e ws) {m : Move} (h : g.next workers ws m = some g') : g'.OK e ws := by
  cases m with
  | start i =>
    simp only [next] at h
    split at h
    · rename_i hs
      cases h
      have hwaiting := List.find?_some hs.1
      refine ok.start ?_ (List.mem_of_find?_eq_some hs.1)
      cases hj : g.job i <;> rw [hj] at hwaiting <;> first | rfl | cases hwaiting
    · cases h
  | step i =>
    simp only [next] at h
    cases hj : g.job i with
    | running faults =>
      rw [hj] at h
      exact ok.step hj h
    | _ => rw [hj] at h; cases h
  | handIn i =>
    simp only [next] at h
    cases hj : g.job i with
    | returned faults =>
      rw [hj] at h
      cases h
      exact ok.handIn hj
    | _ => rw [hj] at h; cases h

/-- **A schedule keeps the invariant.** -/
theorem run_ok (ms : List Move) :
    ∀ {g : Group}, g.OK e ws → g.run workers ws ms = some g' → g'.OK e ws := by
  induction ms with
  | nil =>
    intro g ok h
    cases h
    exact ok
  | cons m ms ih =>
    intro g ok h
    obtain ⟨g₁, hnext, hrest⟩ := Option.bind_eq_some_iff.1 h
    exact ih (next_ok ok hnext) hrest

/-- A walker that was left before it had ended: it is where it was, its position is held for it
and its next step can start. -/
structure Paused (e : Engine) (w : Walker) : Prop where
  state : w.state = .ready ∨ w.state = .active
  pinned : 0 < e.store.pinCount w.position
  live : ∃ inst, e.store.instanceAt w.position = .ok inst

/-- While a walker has not ended, its position is pinned and so it is live. -/
theorem paused_of_held (held : e.Held) {w : Walker} (hw : w ∈ e.walkers)
    (ha : w.state.isTerminal = false) : Paused e w := by
  refine ⟨?_, held.pinned hw ha, held.instanceAt hw ha⟩
  cases hs : w.state <;> rw [hs] at ha <;> first | exact Or.inl rfl | exact Or.inr rfl | cases ha

/-- **Without halting**, all walkers have ended when all jobs are done, and the result tells all
faults. -/
theorem OK.whole (ok : g.OK e ws) (hdone : ∀ i ∈ ws, g.job i = .done)
    (hh : e.haltOnError = false) :
    (∀ i ∈ ws, ∃ w, g.engine.walkers[i]? = some w ∧ w.state.isTerminal = true) ∧
      (g.result = none ↔ ∀ s ∈ g.steps, s.outcome.fault = none) ∧
      ∀ s ∈ g.steps, ∀ f, s.outcome.fault = some f → ∃ r, g.result = some r ∧ r.Wraps f := by
  have hfirst := ok.continuing hh
  have hresult : g.result = Fault.join? g.collected := by
    unfold result
    rw [hfirst, Option.none_or]
  -- the walker of every step has handed in what it met
  have hall : ∀ s ∈ g.steps, ∀ f, s.outcome.fault = some f →
      ∃ r, g.result = some r ∧ r.Wraps f := by
    intro s hm f hf
    have hmet := mem_faultsOf.2 ⟨s, hm, rfl, hf⟩
    rcases ok.handed s.walker (hdone _ (ok.walkers s hm)) f hmet with h | ⟨c, hc, hw⟩
    · rw [hfirst] at h
      cases h
    · rw [hresult]
      cases hjoin : Fault.join? g.collected with
      | none =>
        rw [Fault.join?_eq_none.1 hjoin] at hc
        cases hc
      | some r => exact ⟨r, rfl, Fault.wraps_join? hjoin hc hw⟩
  refine ⟨fun i hi => ?_, ⟨fun hnone s hm => ?_, fun hnone => ?_⟩, hall⟩
  · obtain ⟨w, hw, hend⟩ := ok.ended i (by rw [hdone i hi]; rfl)
    refine ⟨w, hw, ?_⟩
    by_contra ha
    have hsome := hend (by simpa using ha)
    rw [hfirst] at hsome
    cases hsome
  · cases hf : s.outcome.fault with
    | none => rfl
    | some f =>
      obtain ⟨r, hr, -⟩ := hall s hm f hf
      rw [hnone] at hr
      cases hr
  · rw [hresult, Fault.join?_eq_none]
    by_contra hne
    obtain ⟨s, hm, hs⟩ := ok.collected hne
    rw [hnone s hm] at hs
    cases hs

/-- **With halting**, a fault is returned just if a step has met one. -/
theorem OK.halted (ok : g.OK e ws) (hdone : ∀ i ∈ ws, g.job i = .done)
    (hh : e.haltOnError = true) :
    (g.result.isSome = true ↔ ∃ s ∈ g.steps, s.outcome.fault.isSome = true) ∧
      (g.result.isSome = true → ∃ s ∈ g.steps, s.cancelled = false ∧
        s.outcome.fault.isSome = true) := by
  have hresult : g.result = g.first := by
    unfold result
    rw [ok.halting hh]
    exact Option.or_none
  rw [hresult]
  refine ⟨⟨fun h => ?_, fun ⟨s, hm, hs⟩ => ?_⟩, ok.cause⟩
  · obtain ⟨s, hm, -, hs⟩ := ok.cause h
    exact ⟨s, hm, hs⟩
  · obtain ⟨f, hf⟩ := Option.isSome_iff_exists.1 hs
    have hmet := mem_faultsOf.2 ⟨s, hm, rfl, hf⟩
    rcases ok.handed s.walker (hdone _ (ok.walkers s hm)) f hmet with h | ⟨c, hc, -⟩
    · exact h
    · rw [ok.halting hh] at hc
      cases hc

/-- **Walkers that are run together**, from every state of every run from a new engine, with any
number of workers and in any order of the moves in which all jobs get done. If the engine goes
on after faults, all the walkers have ended, nothing is returned just if no step has met a fault,
and otherwise what is returned wraps the fault of every step. If the engine halts at faults, one
is returned just if a step has met one, and then one that was not cancelled; a walker that has
not ended is paused. The engine is the one that the steps alone lead to that were not cancelled,
whatever is done with it afterwards. -/
theorem returned_of_schedule (registry : Registry) (globals : Option GlobalTable)
    (haltOnError : Bool) (surroundings : Surroundings) (cs : List Engine.Command) (workers : Nat)
    (ws : List Nat) (ms : List Move) (g : Group)
    (hrun : (gather ((new registry globals haltOnError surroundings).acts cs) workers ws).run
      workers ws ms = some g)
    (hdone : ∀ i ∈ ws, g.job i = .done) :
    let e := (gather ((new registry globals haltOnError surroundings).acts cs) workers ws).engine
    (haltOnError = false →
      (∀ i ∈ ws, ∃ w, g.engine.walkers[i]? = some w ∧ w.state.isTerminal = true) ∧
      (g.result = none ↔ ∀ s ∈ g.steps, s.outcome.fault = none) ∧
      ∀ s ∈ g.steps, ∀ f, s.outcome.fault = some f → ∃ r, g.result = some r ∧ r.Wraps f) ∧
    (haltOnError = true →
      (g.result.isSome = true ↔ ∃ s ∈ g.steps, s.outcome.fault.isSome = true) ∧
      (g.result.isSome = true → ∃ s ∈ g.steps, s.cancelled = false ∧
        s.outcome.fault.isSome = true) ∧
      ∀ i ∈ ws, ∃ w, g.engine.walkers[i]? = some w ∧
        (w.state.isTerminal = false → Paused g.engine w)) ∧
    ∀ ds, g.engine.acts ds = e.acts (g.taken ++ ds) := by
  intro e
  have ok : g.OK e ws := run_ok ms (gather_ok _ workers ws) hrun
  have held : e.Held := (Engine.acts_held cs Engine.new_held).congr rfl rfl
  have held' : g.engine.Held := by
    rw [ok.engine]
    exact Engine.acts_held g.taken held
  have hpolicy : e.haltOnError = haltOnError := Engine.acts_haltOnError cs _
  refine ⟨fun hh => ok.whole hdone (hpolicy.trans hh), fun hh => ?_,
    fun ds => by rw [Engine.acts_append, ← ok.engine]⟩
  obtain ⟨hiff, hlive⟩ := ok.halted hdone (hpolicy.trans hh)
  refine ⟨hiff, hlive, fun i hi => ?_⟩
  obtain ⟨w, hw, -⟩ := ok.ended i (by rw [hdone i hi]; rfl)
  exact ⟨w, hw, paused_of_held held' (List.mem_of_getElem? hw)⟩

/-- Two walkers on one node. The body of the first one fails, that of the second one sends it on
to another node. -/
def outing : List Engine.Command :=
  let node := Architype.new "m" ⟨.node, "N"⟩
  let ability (name owner : String) (program : Occasion → Program Unit) : Ability :=
    { name, signature := ⟨[], .entry, []⟩, isAbstract := false,
      bound := some (⟨.native, program⟩, "m"), declModule := "m", order := 0,
      owner := ⟨.walker, owner⟩ }
  let stumbler := { Architype.new "m" ⟨.walker, "S"⟩ with
    linkedAbilities := [ability "stumble" "S" fun _ => .fail (.text "lost")] }
  let wanderer := { Architype.new "m" ⟨.walker, "W"⟩ with
    linkedAbilities := [ability "wander" "W" fun o =>
      if o.position = .node 0 1 then Program.visit false [.node 1 1] else .done ()] }
  [.edit (.createNode node []), .edit (.createNode node []), .spawn stumbler (.node 0 1) [],
    .spawn wanderer (.node 0 1) []]

theorem returned_outing :
    let e (halt : Bool) := (gather ((new .empty none halt default).acts outing) 2 [0, 1]).engine
    let ms : List Move :=
      [.start 0, .start 1, .step 1, .step 0, .handIn 0, .step 1, .handIn 1]
    -- with halting the first walker's fault is met before the second step of the other one
    (∃ g, (gather ((new .empty none true default).acts outing) 2 [0, 1]).run 2 [0, 1] ms = some g ∧
      (∀ i ∈ [0, 1], g.job i = .done) ∧
      g.engine.walkers.map (·.state) = [.failed, .active] ∧
      (g.result.isSome = true ↔ ∃ s ∈ g.steps, s.outcome.fault.isSome = true) ∧
      (g.result.isSome = true → ∃ s ∈ g.steps, s.cancelled = false ∧
        s.outcome.fault.isSome = true) ∧
      (∀ i ∈ [0, 1], ∃ w, g.engine.walkers[i]? = some w ∧
        (w.state.isTerminal = false → Paused g.engine w)) ∧
      ∀ ds, g.engine.acts ds = (e true).acts (g.taken ++ ds)) ∧
    ∃ g, (gather ((new .empty none false default).acts outing) 2 [0, 1]).run 2 [0, 1] ms = some g ∧
      (∀ i ∈ [0, 1], g.job i = .done) ∧
      (∀ i ∈ [0, 1], ∃ w, g.engine.walkers[i]? = some w ∧ w.state.isTerminal = true) ∧
      (g.result = none ↔ ∀ s ∈ g.steps, s.outcome.fault = none) ∧
      ∀ s ∈ g.steps, ∀ f, s.outcome.fault = some f → ∃ r, g.result = some r ∧ r.Wraps f := by
  intro e ms
  have done : ∀ {g : Group}, g.job 0 = .done → g.job 1 = .done → ∀ i ∈ [0, 1], g.job i = .done := by
    intro g h0 h1 i hi
    rcases List.mem_cons.1 hi with rfl | hi
    · exact h0
    · cases List.mem_singleton.1 hi
      exact h1
  constructor
  · refine ⟨_, rfl, done rfl rfl, rfl, ?_⟩
    have h := returned_of_schedule .empty none true default outing 2 [0, 1] ms _ rfl (done rfl rfl)
    exact ⟨(h.2.1 rfl).1, (h.2.1 rfl).2.1, (h.2.1 rfl).2.2, h.2.2⟩
  · refine ⟨_, rfl, done rfl rfl, ?_⟩
    have h := returned_of_schedule .empty none false default outing 2 [0, 1] ms _ rfl (done rfl rfl)
    exact h.1 rfl

end Group

end GraphWalk
