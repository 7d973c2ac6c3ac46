import GraphWalk.Proofs.Walker.Story

/-!
# The faults on record

A step returns the fault that its bodies ended with, and a walker keeps the faults it has met.
The two are written in different places: a step that ends by a disengagement returns the fault
of the body that disengaged the walker and failed after that, and puts nothing on record
(`Visit.Records`). `act_records` follows the record of a walker along one command and
`acts_records` along a run.

Main result: `recorded_of_run`. **What the steps of a walker return is its record, followed by
the fault it was disengaged with**, if there is one.
-/

namespace GraphWalk

namespace Visit

variable {v v' : Visit} {r : Visit × StepOutcome}

/-- Bodies put no fault on record. -/
theorem bodies_faults (here : Architype) (events : List Event) (v : Visit) :
    (bodies here events v).1.walker.faults = v.walker.faults := by
  obtain ⟨bs, h⟩ := bodies_recounts here events v
  have hnone : (bs.flatMap BodyTrace.moments).filterMap Moment.error? = [] := by
    refine List.filterMap_eq_nil_iff.2 fun m hm => ?_
    obtain ⟨b, -, hm⟩ := List.mem_flatMap.1 hm
    rcases List.mem_cons.1 hm with rfl | hm
    · rfl
    · obtain ⟨value, -, rfl⟩ := List.mem_map.1 hm
      rfl
  rw [h.faults, hnone, List.append_nil]

/-- The search for the next position does not either. -/
theorem advance_faults (queue : List Handle) (v : Visit) :
    (advance queue v).1.walker.faults = v.walker.faults := by
  obtain ⟨skips, h⟩ := advance_recounts queue v
  have hnone : (skips.map Skip.moment).filterMap Moment.error? = [] := by
    refine List.filterMap_eq_nil_iff.2 fun m hm => ?_
    obtain ⟨skip, -, rfl⟩ := List.mem_map.1 hm
    cases skip <;> rfl
  rw [h.faults, hnone, List.append_nil]

/-- From `v` on, the end `r` of a step puts on record the fault it returns, unless the walker
is disengaged. -/
structure Records (v : Visit) (r : Visit × StepOutcome) : Prop where
  kept : r.2.kind ≠ .disengaged → r.1.walker.faults = v.walker.faults ++ r.2.fault.toList
  /-- A walker that is disengaged has ended, and its record is as it was. -/
  dropped : r.2.kind = .disengaged →
    r.1.walker.faults = v.walker.faults ∧ r.1.walker.state.isTerminal = true

theorem Records.congr (h : v'.Records r) (hf : v'.walker.faults = v.walker.faults) :
    v.Records r :=
  ⟨fun hk => hf ▸ h.kept hk, fun hk => hf ▸ h.dropped hk⟩

/-- At the end of a step no fault is put on record, and the one that is returned is given. -/
theorem conclude_faults (v : Visit) (invoked : Nat) (cause : Option Fault) :
    (v.conclude invoked cause).1.walker.faults = v.walker.faults ∧
      (v.conclude invoked cause).2.fault = cause ∧
      (v.conclude invoked cause).2.kind ≠ .disengaged := by
  have hf := advance_faults v.walker.queue v
  unfold conclude
  cases h : advance v.walker.queue v with
  | mk v' found =>
    rw [h] at hf
    cases found with
    | true => exact ⟨hf, rfl, by simp⟩
    | false => exact ⟨hf, rfl, by simp [finish, Ending.outcome]⟩

/-- **What comes after the bodies** puts on record the fault of the one that failed. -/
theorem close_records (v : Visit) (invoked : Nat) (cause : Option (Event × Fault)) :
    v.Records (v.close invoked cause) := by
  unfold close
  split
  · exact ⟨fun hk => absurd rfl hk, fun _ => ⟨rfl, rfl⟩⟩
  · split
    · rename_i event f
      unfold afterFault
      simp only
      split
      · exact ⟨fun _ => rfl, fun hk => by cases hk⟩
      · let noted : Visit := { v with walker := { v.walker with faults := v.walker.faults ++ [f] } }
        obtain ⟨hf, hfault, hkind⟩ := conclude_faults
          ((noted.observed v.walker.position (.error event f)).logged
            ⟨.warn, "Ability failed, continuing with queue.",
              [("position", .text v.walker.position.text), ("error", .text f.message)]⟩)
          invoked (some f)
        exact ⟨fun _ => by rw [hfault]; exact hf, fun hk => absurd hk hkind⟩
    · obtain ⟨hf, hfault, hkind⟩ := conclude_faults v invoked none
      exact ⟨fun _ => by rw [hfault, hf]; exact (List.append_nil _).symm,
        fun hk => absurd hk hkind⟩

end Visit

namespace Engine

variable {e : Engine} {w : Walker} {i : Nat}

/-- **A step that is taken** puts on record the fault it returns, unless it disengages the
walker. -/
theorem stepWalker_records (ha : w.state.isTerminal = false) :
    (⟨e, w, .empty⟩ : Visit).Records (e.stepWalker false w) := by
  cases hi : e.store.instanceAt w.position with
  | ok inst =>
    obtain ⟨invoked, cause, hclose⟩ := stepWalker_eq_close ha hi
    rw [hclose]
    refine (Visit.close_records (e.worked w) invoked cause).congr ?_
    unfold worked
    rw [hi]
    exact Visit.bodies_faults inst.arch [.entry, .exit] (e.start w inst)
  | error err =>
    -- a position that is gone is a fault of its own
    rw [stepWalker_eq_finish ha hi]
    unfold worked
    rw [hi]
    exact ⟨fun _ => rfl, fun hk => by cases hk⟩

namespace Stepped

/-- The fault that a step returns. -/
def fault? (s : Stepped) : Option Fault := s.result.2.fault

/-- The fault that a step returns while it disengages the walker. -/
def dropped? (s : Stepped) : Option Fault :=
  if s.result.2.kind = .disengaged then s.fault? else none

theorem dropped?_eq_none {s : Stepped} :
    s.dropped? = none ↔ (s.result.2.kind = .disengaged → s.fault? = none) := by
  unfold dropped?
  split <;> simp [*]

/-- **A step that is taken** has its fault on record or drops it, and then the walker has
ended. -/
theorem records {s : Stepped} (ht : s.isTaken = true) :
    s.walker.faults ++ s.fault?.toList = s.result.1.walker.faults ++ s.dropped?.toList ∧
      (s.dropped? ≠ none → s.result.1.walker.state.isTerminal = true) := by
  obtain ⟨e, cancelled, w⟩ := s
  simp only [isTaken, Bool.and_eq_true, Bool.not_eq_true'] at ht
  obtain ⟨ha, rfl⟩ := ht
  have hr := stepWalker_records (e := e) ha
  unfold dropped? fault? result
  by_cases hk : (e.stepWalker false w).2.kind = .disengaged
  · obtain ⟨hf, hterm⟩ := hr.dropped hk
    rw [if_pos hk, hf]
    exact ⟨rfl, fun _ => hterm⟩
  · rw [if_neg hk, hr.kept hk]
    exact ⟨(List.append_nil _).symm, fun hne => absurd rfl hne⟩

end Stepped

/-- The steps of walker `i` that are taken in a run. -/
def takenBy (i : Nat) (e : Engine) (cs : List Command) : List Stepped :=
  (stepsOf i e cs).filter Stepped.isTaken

/-- What walker `i` has on record, nothing as long as there is no such walker. -/
def recordOf (e : Engine) (i : Nat) : List Fault := ((e.walkers[i]?).map (·.faults)).getD []

theorem recordOf_eq (hw : e.walkers[i]? = some w) : e.recordOf i = w.faults := by
  unfold recordOf
  rw [hw]
  rfl

/-- A new walker has nothing on record, and other walkers keep what they have. -/
theorem act_spawn_recordOf (e : Engine) (i : Nat) (a : Architype) (start : Handle)
    (args : List (String × Value)) : (e.act (.spawn a start args)).recordOf i = e.recordOf i := by
  unfold act recordOf
  simp only
  cases hs : e.spawn a start args with
  | error f => rfl
  | ok r =>
    obtain ⟨e', w⟩ := r
    obtain ⟨-, -, -, hws, -⟩ := spawn_eq hs
    obtain ⟨-, -, -, -, -, hnone, -⟩ := spawn_told hs
    simp only [hws]
    rcases Nat.lt_trichotomy i e.walkers.length with hi | rfl | hi
    · rw [List.getElem?_append_left hi]
    · rw [List.getElem?_concat_length, List.getElem?_eq_none (Nat.le_refl _), Option.map_some,
        hnone]
      rfl
    · have hlen : (e.walkers ++ [w]).length ≤ i := by
        rw [List.length_append, List.length_singleton]
        omega
      rw [List.getElem?_eq_none hlen, List.getElem?_eq_none (Nat.le_of_lt hi)]

/-- Once it has ended, a walker takes no step. -/
theorem takenBy_ended (ht : w.state.isTerminal = true) (cs : List Command) :
    ∀ {e : Engine}, e.walkers[i]? = some w → takenBy i e cs = [] := by
  induction cs with
  | nil => exact fun _ => rfl
  | cons c cs ih =>
    intro e hw
    have hnow : (e.stepped i c).filter Stepped.isTaken = [] := by
      unfold stepped
      split
      · split
        · simp [hw, Stepped.isTaken, ht]
        · rfl
      · rfl
    have hlater := ih (act_ended hw ht c)
    unfold takenBy at hlater ⊢
    unfold stepsOf
    rw [List.filter_append, hnow, hlater]
    rfl

/-- What the steps `ss` return comes on the record of walker `i`, but for the fault that it is
disengaged with. -/
structure Recorded (e : Engine) (i : Nat) (ss : List Stepped) (e' : Engine) : Prop where
  record : e.recordOf i ++ ss.filterMap Stepped.fault? =
    e'.recordOf i ++ ss.filterMap Stepped.dropped?
  ended : ss.filterMap Stepped.dropped? ≠ [] →
    ∃ w, e'.walkers[i]? = some w ∧ w.state.isTerminal = true

/-- Without a step the record stays as it is. -/
theorem Recorded.of_eq {e' : Engine} (h : e'.recordOf i = e.recordOf i) : e.Recorded i [] e' :=
  ⟨by rw [h]; rfl, fun hne => absurd rfl hne⟩

/-- **One command** brings the fault of the step that it takes on record. -/
theorem act_records (e : Engine) (i : Nat) (c : Command) :
    e.Recorded i ((e.stepped i c).filter Stepped.isTaken) (e.act c) := by
  cases c with
  | spawn a start args => exact .of_eq (act_spawn_recordOf e i a start args)
  | edit ed => exact .of_eq rfl
  | step cancelled j =>
    unfold stepped
    simp only
    by_cases hij : j = i
    · subst hij
      rw [if_pos rfl]
      cases hw : e.walkers[j]? with
      | none => exact .of_eq (by rw [act_step, hw])
      | some w =>
        let s : Stepped := ⟨e, cancelled, w⟩
        have hafter : (e.act (.step cancelled j)).walkers[j]? = some s.result.1.walker := by
          rw [act_step_walkers, if_pos rfl, hw]
          rfl
        rw [Option.toList_some, List.map_singleton]
        cases ht : s.isTaken with
        | false =>
          rw [List.filter_cons_of_neg (by rw [ht]; exact Bool.false_ne_true)]
          refine .of_eq ?_
          rw [recordOf_eq hafter, recordOf_eq hw, Stepped.rests_result ht]
        | true =>
          rw [List.filter_cons_of_pos ht, List.filter_nil]
          have single : ∀ f : Stepped → Option Fault, [s].filterMap f = (f s).toList := fun f => by
            cases h : f s <;> simp [h]
          obtain ⟨hrecord, hended⟩ := Stepped.records ht
          refine ⟨?_, fun hne => ⟨_, hafter, hended fun hnone => hne ?_⟩⟩
          · rw [recordOf_eq hafter, recordOf_eq hw, single, single]
            exact hrecord
          · rw [single, hnone]
            rfl
    · rw [if_neg hij]
      refine .of_eq ?_
      unfold recordOf
      rw [act_step_walkers, if_neg hij]

/-- **A run** brings the faults of all steps that are taken on record. -/
theorem acts_records (i : Nat) (cs : List Command) :
    ∀ e : Engine, e.Recorded i (takenBy i e cs) (e.acts cs) := by
  induction cs with
  | nil => exact fun e => .of_eq rfl
  | cons c cs ih =>
    intro e
    have hnow := act_records e i c
    have hlater := ih (e.act c)
    have hsplit : takenBy i e (c :: cs) =
        (e.stepped i c).filter Stepped.isTaken ++ takenBy i (e.act c) cs := by
      unfold takenBy
      exact List.filter_append ..
    rw [hsplit]
    by_cases hd : ((e.stepped i c).filter Stepped.isTaken).filterMap Stepped.dropped? = []
    · refine ⟨?_, fun hne => hlater.ended ?_⟩
      · rw [List.filterMap_append, List.filterMap_append, ← List.append_assoc, hnow.record, hd,
          List.append_nil, List.nil_append]
        exact hlater.record
      · rwa [List.filterMap_append, hd, List.nil_append] at hne
    · -- the walker has ended with the fault that is dropped, so this is its last step
      obtain ⟨w, hw, ht⟩ := hnow.ended hd
      have hkept := acts_ended ht cs hw
      rw [takenBy_ended ht cs hw, List.append_nil]
      refine ⟨?_, fun _ => ⟨w, hkept, ht⟩⟩
      rw [hnow.record, recordOf_eq hw, show (e.acts (c :: cs)).recordOf i = w.faults from
        recordOf_eq hkept]

/-- **What the steps of a walker return** is its record, in every state of every run from a new
engine, whether or not faults halt it and whatever the bodies do; only the fault of a body that
failed after it had disengaged the walker is returned and not on record. So the two agree
just if no step returns a fault while it disengages the walker. -/
theorem recorded_of_run (registry : Registry) (globals : Option GlobalTable) (haltOnError : Bool)
    (surroundings : Surroundings) (cs : List Command) (i : Nat) (w : Walker)
    (hw : ((new registry globals haltOnError surroundings).acts cs).walkers[i]? = some w) :
    let steps := takenBy i (new registry globals haltOnError surroundings) cs
    steps.filterMap Stepped.fault? = w.faults ++ steps.filterMap Stepped.dropped? ∧
      (steps.filterMap Stepped.fault? = w.faults ↔
        ∀ s ∈ steps, s.result.2.kind = .disengaged → s.fault? = none) := by
  intro steps
  have hr := (acts_records i cs (new registry globals haltOnError surroundings)).record
  rw [recordOf_eq hw] at hr
  have hrecord : steps.filterMap Stepped.fault? = w.faults ++ steps.filterMap Stepped.dropped? := hr
  refine ⟨hrecord, ?_⟩
  rw [hrecord, List.append_right_eq_self, List.filterMap_eq_nil_iff]
  exact forall₂_congr fun s _ => Stepped.dropped?_eq_none

/-- A walker that fails on the first node and goes on to the second, which it does not want to
walk any further from: there it fails after it has disengaged. -/
def resignation : List Command :=
  let node := Architype.new "m" ⟨.node, "N"⟩
  let walk : Ability :=
    { name := "walk", signature := ⟨[], .entry, []⟩, isAbstract := false,
      bound := some (⟨.native, fun o => do
        if o.position = .node 0 1 then
          Program.visit false [.node 1 1]
          Program.fail (.text "tired")
        else
          Program.disengage
          Program.fail (.text "lost")⟩, "m"),
      declModule := "m", order := 0, owner := ⟨.walker, "W"⟩ }
  let walker := { Architype.new "m" ⟨.walker, "W"⟩ with linkedAbilities := [walk] }
  List.replicate 2 (.edit (.createNode node [])) ++
    [.spawn walker (.node 0 1) [], .step false 0, .step false 0]

theorem recorded_resignation :
    let steps := takenBy 0 (new .empty none false default) resignation
    ∃ w, ((new .empty none false default).acts resignation).walkers[0]? = some w ∧
      w.faults.map Fault.message = ["ability walker.W.walk failed on entry at n0.1: tired"] ∧
      (steps.filterMap Stepped.dropped?).map Fault.message =
        ["ability walker.W.walk failed on entry at n1.1: lost"] ∧
      (steps.filterMap Stepped.fault? = w.faults ++ steps.filterMap Stepped.dropped? ∧
        (steps.filterMap Stepped.fault? = w.faults ↔
          ∀ s ∈ steps, s.result.2.kind = .disengaged → s.fault? = none)) := by
  refine ⟨_, rfl, by decide +kernel, by decide +kernel, ?_⟩
  exact recorded_of_run .empty none false default resignation 0 _ rfl

/-- A walker whose only body disengages it and then fails. -/
def desertion : List Command :=
  let leave : Ability :=
    { name := "leave", signature := ⟨[], .entry, []⟩, isAbstract := false,
      bound := some (⟨.native, fun _ => do
        Program.disengage
        Program.fail (.text "lost")⟩, "m"),
      declModule := "m", order := 0, owner := ⟨.walker, "W"⟩ }
  let walker := { Architype.new "m" ⟨.walker, "W"⟩ with linkedAbilities := [leave] }
  [.edit (.createNode (Architype.new "m" ⟨.node, "N"⟩) []), .spawn walker (.node 0 1) [],
    .step false 0]

/-- The fault of a body that has disengaged its walker is returned and not on record, whether
faults halt the engine or not. -/
theorem deserter_unrecorded :
    let returned := fun haltOnError =>
      (takenBy 0 (new .empty none haltOnError default) desertion).filterMap Stepped.fault?
    let record := fun haltOnError =>
      ((new .empty none haltOnError default).acts desertion).recordOf 0
    ((returned false).map Fault.message =
        ["ability walker.W.leave failed on entry at n0.1: lost"] ∧ record false = []) ∧
      (returned true).map Fault.message =
        ["ability walker.W.leave failed on entry at n0.1: lost"] ∧ record true = [] :=
  ⟨⟨by decide +kernel, rfl⟩, by decide +kernel, rfl⟩

end Engine

end GraphWalk
