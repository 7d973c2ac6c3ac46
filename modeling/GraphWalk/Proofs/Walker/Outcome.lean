import GraphWalk.Proofs.Store.Held
import GraphWalk.Proofs.Walker.Turns

/-!
# What a step runs and how it ends

`Closed` says how a step ends: by what its bodies leave, the walker is disengaged, has
failed, moves on or has completed. `Coherent known` is the invariant of an engine that
lets the rule of the step be stated by architypes: everything it meets is of a known
architype, its dispatch table answers for these, and no walker that has not ended is
disengaged. `acts_coherent` keeps it along a run.

Main result: `ran_of_step`. **A step runs the bound abilities that are due, in order and
up to the first body that fails or disengages the walker, and ends by what these leave;
for a disengaged walker no body is ever run again.**

`Held` is the part of the invariant of an engine that does not ask how old the graph is:
every handle is pinned as often as walkers that have not ended stand on it, and whatever
is pinned is live. `act_held` keeps it along one command and `acts_held` along runs of any
length. So a step that is taken always finds its position (`Held.instanceAt`).
-/

namespace GraphWalk

namespace Visit

variable {v v' v'' : Visit}

/-- The queue has an entry to move to: one that is live and not ignored. -/
def HasNext (v : Visit) : Prop :=
  ∃ h ∈ v.walker.queue, h ∉ v.walker.ignored ∧ v.engine.store.contains h = true

/-- What comes after the bodies changes none of what they cannot change, and does not
disengage the walker. -/
structure Settles (v v' : Visit) : Prop extends Quiet v v' where
  isDisengaged : v'.walker.isDisengaged = v.walker.isDisengaged

theorem Settles.refl (v : Visit) : v.Settles v := ⟨Quiet.refl v, rfl⟩

theorem Settles.trans (h : v.Settles v') (h' : v'.Settles v'') : v.Settles v'' :=
  ⟨h.toQuiet.trans h'.toQuiet, h'.isDisengaged.trans h.isDisengaged⟩

theorem emit_settles (v : Visit) {s : Signal} (hs : s.ability? = none) :
    v.Settles { v with engine := v.engine.emit s } := ⟨emit_quiet v hs, rfl⟩

theorem logged_settles (v : Visit) (r : LogRecord) : v.Settles (v.logged r) := emit_settles v rfl

/-- What is told after the bodies tells of no ability. -/
theorem observed_settles (v : Visit) (position : Handle) {m : Moment}
    (hm : m.kind ≠ "ability") : v.Settles (v.observed position m) := by
  refine emit_settles v ?_
  cases m with
  | ability path event side => exact absurd rfl hm
  | _ => rfl

theorem advance_settles (queue : List Handle) : ∀ v : Visit, v.Settles (advance queue v).1 := by
  induction queue with
  | nil => exact fun v => ⟨⟨⟨rfl, rfl, rfl, rfl⟩, rfl⟩, rfl⟩
  | cons h rest ih =>
    intro v
    unfold advance
    split
    · exact (observed_settles v h (by decide)).trans (ih _)
    · split
      · exact ((logged_settles v _).trans (observed_settles _ h (by decide))).trans (ih _)
      · exact ⟨⟨⟨rfl, rfl, rfl, rfl⟩, rfl⟩, rfl⟩

theorem finish_settles (v : Visit) (ending : Ending) (invoked : Nat) (cause : Option Fault) :
    v.Settles (v.finish ending invoked cause).1 := by
  unfold finish
  simp only
  refine Settles.trans ?_ (observed_settles _ _ ?_)
  · refine Settles.trans ?_ (logged_settles _ _)
    exact ⟨⟨⟨rfl, rfl, rfl, rfl⟩, rfl⟩, rfl⟩
  · cases ending <;> simp [Ending.moment, Moment.kind]

theorem conclude_settles (v : Visit) (invoked : Nat) (cause : Option Fault) :
    v.Settles (v.conclude invoked cause).1 := by
  have := advance_settles v.walker.queue v
  unfold conclude
  cases h : advance v.walker.queue v with
  | mk v' found =>
    rw [h] at this
    cases found with
    | true => exact this
    | false => exact this.trans (finish_settles _ _ _ _)

theorem afterFault_settles (v : Visit) (event : Event) (invoked : Nat) (f : Fault) :
    v.Settles (v.afterFault event invoked f).1 := by
  have hnoted : v.Settles (({ v with
      walker := { v.walker with faults := v.walker.faults ++ [f] } } : Visit).observed
        v.walker.position (.error event f)) := by
    refine Settles.trans ?_ (observed_settles _ _ (by simp [Moment.kind]))
    exact ⟨⟨⟨rfl, rfl, rfl, rfl⟩, rfl⟩, rfl⟩
  unfold afterFault
  simp only
  split
  · exact hnoted.trans (finish_settles _ _ _ _)
  · exact hnoted.trans ((logged_settles _ _).trans (conclude_settles _ _ _))

theorem close_settles (v : Visit) (invoked : Nat) (cause : Option (Event × Fault)) :
    v.Settles (v.close invoked cause).1 := by
  unfold close
  split
  · exact finish_settles _ _ _ _
  · split
    · exact afterFault_settles _ _ _ _
    · exact conclude_settles _ _ _

/-- **The search for the next position** finds one if there is one. -/
theorem advance_found (queue : List Handle) : ∀ v : Visit, (advance queue v).2 = true ↔
    ∃ h ∈ queue, h ∉ v.walker.ignored ∧ v.engine.store.contains h = true := by
  induction queue with
  | nil => exact fun v => by simp [advance]
  | cons h rest ih =>
    intro v
    unfold advance
    split
    · rename_i hi
      rw [ih]
      -- an ignored entry is none of those that count, and the search goes on behind it
      have hm : h ∈ v.walker.ignored := by simpa using hi
      simp only [List.exists_mem_cons_iff, hm, not_true_eq_false, false_and, false_or]
      rfl
    · rename_i hi
      have hm : h ∉ v.walker.ignored := by simpa using hi
      cases hp : v.engine.store.pin h with
      | error e =>
        -- what cannot be pinned is gone
        have hdead : v.engine.store.contains h = false := Store.contains_of_pin_error hp
        simp only [List.exists_mem_cons_iff, hdead, Bool.false_eq_true, and_false, false_or]
        exact ih _
      | ok s =>
        have hlive := (Store.pin_eq hp).1
        simp only [true_iff]
        exact ⟨h, List.mem_cons_self, hm, hlive⟩

/-- The ends of a step, by what its bodies leave. -/
inductive Closed (v : Visit) (cause : Option (Event × Fault)) (r : Visit × StepOutcome) : Prop where
  | disengaged (hd : v.walker.isDisengaged = true) (hk : r.2.kind = .disengaged)
      (hs : r.1.walker.state = .disengaged)
  | failed (hd : v.walker.isDisengaged = false) (hc : cause.isSome = true)
      (hh : v.engine.haltOnError = true) (hk : r.2.kind = .failed)
      (hs : r.1.walker.state = .failed)
  | moved (hd : v.walker.isDisengaged = false)
      (hc : cause.isSome = true → v.engine.haltOnError = false) (hn : v.HasNext)
      (hk : r.2.kind = .moved) (hs : r.1.walker.state = v.walker.state)
  | completed (hd : v.walker.isDisengaged = false)
      (hc : cause.isSome = true → v.engine.haltOnError = false) (hn : ¬ v.HasNext)
      (hk : r.2.kind = .completed) (hs : r.1.walker.state = .completed)

/-- Only the end of the bodies, the policy and the way on count. -/
theorem Closed.congr {cause : Option (Event × Fault)} {r : Visit × StepOutcome}
    (hd : v'.walker.isDisengaged = v.walker.isDisengaged)
    (hh : v'.engine.haltOnError = v.engine.haltOnError)
    (hs : v'.walker.state = v.walker.state) (hn : v'.HasNext ↔ v.HasNext)
    (h : v'.Closed cause r) : v.Closed cause r := by
  cases h with
  | disengaged hd' hk hs' => exact .disengaged (hd ▸ hd') hk hs'
  | failed hd' hc hh' hk hs' => exact .failed (hd ▸ hd') hc (hh ▸ hh') hk hs'
  | moved hd' hc hn' hk hs' => exact .moved (hd ▸ hd') (hh ▸ hc) (hn.1 hn') hk (hs'.trans hs)
  | completed hd' hc hn' hk hs' =>
    exact .completed (hd ▸ hd') (hh ▸ hc) (fun h => hn' (hn.2 h)) hk hs'

/-- The outcome tells which of the ends it is. -/
theorem Closed.kind {cause : Option (Event × Fault)} {r : Visit × StepOutcome}
    (h : v.Closed cause r) :
    (r.2.kind = .disengaged ↔ v.walker.isDisengaged = true) ∧
      (r.2.kind = .failed ↔ r.2.kind ≠ .disengaged ∧ cause.isSome = true ∧
        v.engine.haltOnError = true) ∧
      (r.2.kind = .moved ↔ r.2.kind ≠ .disengaged ∧ r.2.kind ≠ .failed ∧ v.HasNext) ∧
      (r.2.kind = .completed ↔ r.2.kind ≠ .disengaged ∧ r.2.kind ≠ .failed ∧ ¬ v.HasNext) := by
  have spared : (cause.isSome = true → v.engine.haltOnError = false) →
      ¬ (cause.isSome = true ∧ v.engine.haltOnError = true) := fun hc ⟨h, hh⟩ => by
    rw [hc h] at hh
    cases hh
  cases h with
  | disengaged hd hk hs => simp [hd, hk]
  | failed hd hc hh hk hs => simp [hd, hc, hh, hk]
  | moved hd hc hn hk hs => simpa [hd, hn, hk] using spared hc
  | completed hd hc hn hk hs => simpa [hd, hn, hk] using spared hc

/-- The search for the next position does not end the walker. -/
theorem advance_state (queue : List Handle) :
    ∀ v : Visit, (advance queue v).1.walker.state = v.walker.state := by
  induction queue with
  | nil => exact fun v => rfl
  | cons h rest ih =>
    intro v
    unfold advance
    split
    · exact ih _
    · split
      · exact ih _
      · rfl

/-- Where no fault stops the walker, it moves on if there is an entry to move to. -/
theorem conclude_closed (v : Visit) (hd : v.walker.isDisengaged = false) (invoked : Nat)
    (cause : Option (Event × Fault)) (hc : cause.isSome = true → v.engine.haltOnError = false) :
    v.Closed cause (v.conclude invoked (cause.map (·.2))) := by
  have hfound := advance_found v.walker.queue v
  have hstate := advance_state v.walker.queue v
  unfold conclude
  cases h : advance v.walker.queue v with
  | mk v' found =>
    rw [h] at hfound hstate
    cases found with
    | true => exact .moved hd hc (hfound.1 rfl) rfl hstate
    | false => exact .completed hd hc (fun hn => Bool.false_ne_true (hfound.2 hn)) rfl rfl

/-- **How a step ends** depends on what its bodies leave. -/
theorem close_closed (v : Visit) (invoked : Nat) (cause : Option (Event × Fault)) :
    v.Closed cause (v.close invoked cause) := by
  unfold close
  by_cases hd : v.walker.isDisengaged = true
  · rw [if_pos hd]
    exact .disengaged hd rfl rfl
  · rw [if_neg hd]
    rw [Bool.not_eq_true] at hd
    cases cause with
    | none => exact conclude_closed v hd invoked none fun h => by cases h
    | some p =>
      obtain ⟨event, f⟩ := p
      simp only
      unfold afterFault
      simp only
      split
      · rename_i hh
        exact .failed hd rfl hh rfl rfl
      · rename_i hh
        -- the fault is noted, which leaves the queue and the graph alone
        have hh' : v.engine.haltOnError = false := Bool.eq_false_iff.2 hh
        refine Closed.congr ?_ ?_ ?_ ?_ (conclude_closed _ ?_ invoked (some (event, f)) ?_)
        · rfl
        · rfl
        · rfl
        · exact Iff.rfl
        · exact hd
        · exact fun _ => hh'

/-- What comes after the bodies does not change how many have succeeded. -/
theorem close_invocations (v : Visit) (invoked : Nat) (cause : Option (Event × Fault)) :
    (v.close invoked cause).2.invocations = invoked := by
  have hconclude : ∀ (v : Visit) (c : Option Fault),
      (v.conclude invoked c).2.invocations = invoked := by
    intro v c
    unfold conclude
    cases advance v.walker.queue v with
    | mk v' found => cases found <;> rfl
  unfold close
  split
  · rfl
  · split
    · unfold afterFault
      simp only
      split
      · rfl
      · exact hconclude _ _
    · exact hconclude _ _

end Visit

/-- What is due when a walker meets an instance: the bound abilities for its arrival,
then those for its leaving. -/
def Walker.dues (w : Walker) (here : Architype) : List (Event × Invocation) :=
  Visit.duesOf .entry (Dispatch.invocations w.arch here .entry) ++
    Visit.duesOf .exit (Dispatch.invocations w.arch here .exit)

namespace Engine

open Store (Edit)

variable {e : Engine} {w : Walker} {inst : Instance} {known : List Architype} {i : Nat}

/-- A walker at the start of a step. -/
def arrive (e : Engine) (w : Walker) (inst : Instance) : Visit :=
  ⟨e, { w with state := .active, steps := w.steps + 1 }, inst.fields⟩

/-- **The invariant** that lets steps be described by architypes. -/
structure Coherent (known : List Architype) (e : Engine) : Prop where
  registry : ∀ a ∈ e.registry.archs, a ∈ known
  store : e.store.Within known
  arch : ∀ w ∈ e.walkers, w.arch ∈ known
  engaged : ∀ w ∈ e.walkers, w.state.isTerminal = false → w.isDisengaged = false
  table : e.table.Faithful known

/-- A walker that has not ended takes its step. -/
theorem settled?_eq_none (ha : w.state.isTerminal = false) : settled? w = none := by
  rw [← Option.not_isSome_iff_eq_none, settled?_isSome, ha]
  exact Bool.false_ne_true

/-- No step changes the list of walkers; its own walker is put back by the caller. -/
theorem stepWalker_walkers (e : Engine) (cancelled : Bool) (w : Walker) :
    (e.stepWalker cancelled w).1.engine.walkers = e.walkers := by
  by_cases hr : w.state.isTerminal = true ∨ cancelled = true
  · rw [(stepWalker_rests hr).1]
  · obtain ⟨ha, hcan⟩ := not_or.1 hr
    rw [Bool.not_eq_true] at ha hcan
    subst hcan
    cases stepWalker_leaves (e := e) ha <;> assumption

/-- **A step that is taken follows the rule**, from the arrival on. -/
theorem stepWalker_runs (hc : e.Coherent known) (one : OneRecord known) (hw : w ∈ e.walkers)
    (ha : w.state.isTerminal = false) (hi : e.store.instanceAt w.position = .ok inst) :
    ∃ ts v, Visit.Runs inst.arch.key (w.dues inst.arch) (e.arrive w inst) ts v ∧
      e.stepWalker false w = v.close (Turn.succeeded ts) (Turn.cause ts) ∧
      v.engine.table.Faithful known := by
  -- before the first body the arrival is only told
  let v := (((e.arrive w inst).logged ⟨.debug, "Visiting position.",
    [("position", .text w.position.text), ("arch", .text inst.arch.name)]⟩).observed w.position
      .visit)
  have hv : (e.arrive w inst).Follows v :=
    (Visit.logged_follows _ _).trans (Visit.emit_follows _ rfl)
  obtain ⟨ts, v', hr, hclose, ht⟩ := Visit.phases_runs one (hc.store.instanceAt hi)
    [.entry, .exit] v 0 (hc.engaged w hw ha) (hc.arch w hw) hc.table
  refine ⟨ts, v', ?_, ?_, ht⟩
  · have hr := hr.of_follows hv
    rw [List.flatMap_cons, List.flatMap_cons, List.flatMap_nil, List.append_nil] at hr
    exact hr
  · unfold stepWalker
    rw [settled?_eq_none ha, hi]
    simp only [Bool.false_eq_true, if_false]
    rw [Nat.zero_add] at hclose
    exact hclose

/-! ## The invariant along a run -/

/-- What a step that is taken leaves of its visit. -/
theorem stepWalker_coherent (hc : e.Coherent known) (one : OneRecord known) (hw : w ∈ e.walkers)
    (ha : w.state.isTerminal = false) :
    (e.stepWalker false w).1.engine.registry = e.registry ∧
      (e.stepWalker false w).1.walker.arch = w.arch ∧
      (e.stepWalker false w).1.engine.table.Faithful known ∧
      ((e.stepWalker false w).1.walker.state.isTerminal = false →
        (e.stepWalker false w).1.walker.isDisengaged = false) := by
  cases hi : e.store.instanceAt w.position with
  | error err =>
    unfold stepWalker
    rw [settled?_eq_none ha, hi]
    exact ⟨rfl, rfl, hc.table, fun h => by cases h⟩
  | ok inst =>
    obtain ⟨ts, v, hr, hclose, ht⟩ := stepWalker_runs hc one hw ha hi
    have hs := Visit.close_settles v (Turn.succeeded ts) (Turn.cause ts)
    have hclosed := Visit.close_closed v (Turn.succeeded ts) (Turn.cause ts)
    obtain ⟨-, hreg, harch⟩ := hr.engine
    rw [hclose]
    refine ⟨hs.registry.trans hreg, hs.arch.trans harch, by rw [hs.table]; exact ht, fun hst => ?_⟩
    rw [hs.isDisengaged]
    -- a walker that was disengaged has ended
    cases hclosed with
    | disengaged hd hk hs => rw [hs] at hst; cases hst
    | failed hd hc hh hk hs => exact hd
    | moved hd hc hn hk hs => exact hd
    | completed hd hc hn hk hs => exact hd

/-- A step puts its walker back, and no other walker changes. -/
theorem Coherent.step (hc : e.Coherent known) (one : OneRecord known) (cancelled : Bool)
    (hw : e.walkers[i]? = some w) :
    ({ (e.stepWalker cancelled w).1.engine with
        walkers := (e.stepWalker cancelled w).1.engine.walkers.set i
          (e.stepWalker cancelled w).1.walker } : Engine).Coherent known := by
  have hm := List.mem_of_getElem? hw
  by_cases hr : w.state.isTerminal = true ∨ cancelled = true
  · obtain ⟨hi, rfl⟩ := List.getElem?_eq_some_iff.1 hw
    rw [(stepWalker_rests hr).1]
    simp only [List.set_getElem_self]
    exact hc
  · obtain ⟨ha, hcan⟩ := not_or.1 hr
    rw [Bool.not_eq_true] at ha hcan
    subst hcan
    obtain ⟨hreg, harch, ht, heng⟩ := stepWalker_coherent hc one hm ha
    -- what the bodies create is of the registry, and all that is in it is known
    have hbring : Visit.Bring e.registry.archs (e.stepEdits false w) := stepEdits_bring
    have hedits : (e.store.editAll (e.stepEdits false w)).Within known :=
      hc.store.editAll fun ed hed a ha => hc.registry a (hbring ed hed a ha)
    have hl := stepWalker_leaves (e := e) ha
    have hstore : (e.stepWalker false w).1.engine.store.Within known := by
      cases hl with
      | ended _ hst _ _ => rw [hst]; exact ⟨hedits.nodes, hedits.edges⟩
      | moved s _ hp hst _ =>
        obtain ⟨-, rfl⟩ := Store.pin_eq hp
        rw [hst]
        exact ⟨hedits.nodes, hedits.edges⟩
    refine ⟨by rw [hreg]; exact hc.registry, hstore, fun w' hm' => ?_, fun w' hm' => ?_, ht⟩
    · simp only [stepWalker_walkers] at hm'
      rcases List.mem_or_eq_of_mem_set hm' with hm' | rfl
      · exact hc.arch w' hm'
      · rw [harch]; exact hc.arch w hm
    · simp only [stepWalker_walkers] at hm'
      rcases List.mem_or_eq_of_mem_set hm' with hm' | rfl
      · exact hc.engaged w' hm'
      · exact heng

/-- The architypes that a command brings along. -/
def Command.archs : Command → List Architype
  | .spawn a .. => [a]
  | .step .. => []
  | .edit ed => ed.archs

/-- A new walker of a known architype is not disengaged. -/
theorem Coherent.spawn (hc : e.Coherent known) {a : Architype} {start : Handle}
    {args : List (String × Value)} {e' : Engine} (ha : a ∈ known)
    (hs : e.spawn a start args = .ok (e', w)) : e'.Coherent known := by
  obtain ⟨fields, s, -, hp, rfl, rfl⟩ := spawn_eq_ok hs
  obtain ⟨-, rfl⟩ := Store.pin_eq hp
  refine ⟨hc.registry, ⟨hc.store.nodes, hc.store.edges⟩, fun w hm => ?_, fun w hm => ?_,
    hc.table⟩
  · rcases List.mem_append.1 hm with hm | hm
    · exact hc.arch w hm
    · cases List.mem_singleton.1 hm
      exact ha
  · rcases List.mem_append.1 hm with hm | hm
    · exact hc.engaged w hm
    · cases List.mem_singleton.1 hm
      exact fun _ => rfl

theorem act_step (cancelled : Bool) (i : Nat) : e.act (.step cancelled i) =
    match e.walkers[i]? with
    | some w => { (e.stepWalker cancelled w).1.engine with
        walkers := (e.stepWalker cancelled w).1.engine.walkers.set i
          (e.stepWalker cancelled w).1.walker }
    | none => e := by
  simp only [act, Engine.step]
  cases e.walkers[i]? <;> rfl

/-- A step changes the walker that takes it, and no other. -/
theorem act_step_walkers (e : Engine) (cancelled : Bool) (j i : Nat) :
    (e.act (.step cancelled j)).walkers[i]? =
      if j = i then (e.walkers[i]?).map fun w => (e.stepWalker cancelled w).1.walker
      else e.walkers[i]? := by
  rw [act_step]
  by_cases hij : j = i
  · subst hij
    rw [if_pos rfl]
    cases hw : e.walkers[j]? with
    | none => exact hw
    | some w =>
      obtain ⟨hlt, -⟩ := List.getElem?_eq_some_iff.1 hw
      simp only [stepWalker_walkers]
      exact List.getElem?_set_self hlt
  · rw [if_neg hij]
    cases e.walkers[j]? with
    | none => rfl
    | some w =>
      simp only [stepWalker_walkers]
      exact List.getElem?_set_ne hij

/-- **One command keeps the invariant.** -/
theorem act_coherent (hc : e.Coherent known) (one : OneRecord known) (c : Command)
    (ha : ∀ a ∈ c.archs, a ∈ known) : (e.act c).Coherent known := by
  cases c with
  | spawn a start args =>
    unfold act
    simp only
    split
    · rename_i hs
      exact hc.spawn (ha a List.mem_cons_self) hs
    · exact hc
  | step cancelled i =>
    rw [act_step]
    cases hw : e.walkers[i]? with
    | none => exact hc
    | some w => exact hc.step one cancelled hw
  | edit ed => exact ⟨hc.registry, hc.store.perform (.edit ed) ha, hc.arch, hc.engaged, hc.table⟩

/-- **A run keeps the invariant.** -/
theorem acts_coherent (one : OneRecord known) (cs : List Command) :
    ∀ {e : Engine}, e.Coherent known → (∀ a ∈ cs.flatMap Command.archs, a ∈ known) →
      (e.acts cs).Coherent known := by
  induction cs with
  | nil => exact fun hc _ => hc
  | cons c cs ih =>
    intro e hc ha
    rw [List.flatMap_cons] at ha
    exact ih (act_coherent hc one c fun a hm => ha a (List.mem_append_left _ hm))
      fun a hm => ha a (List.mem_append_right _ hm)

theorem new_coherent {registry : Registry} {globals : Option GlobalTable} {haltOnError : Bool}
    {surroundings : Surroundings} (hk : ∀ a ∈ registry.archs, a ∈ known) :
    (new registry globals haltOnError surroundings).Coherent known :=
  ⟨hk, Store.empty_within, fun _ hm => absurd hm List.not_mem_nil,
    fun _ hm => absurd hm List.not_mem_nil, fun _ hm => absurd hm List.not_mem_nil⟩

/-! ## Walkers that have ended -/

/-- **A walker that has ended stays as it is**, whatever is done. -/
theorem act_ended (hw : e.walkers[i]? = some w) (ht : w.state.isTerminal = true) (c : Command) :
    (e.act c).walkers[i]? = some w := by
  obtain ⟨hi, -⟩ := List.getElem?_eq_some_iff.1 hw
  cases c with
  | spawn a start args =>
    unfold act
    simp only
    split
    · rename_i hs
      obtain ⟨-, -, -, hws, -, -⟩ := spawn_eq hs
      rw [hws, List.getElem?_append_left hi, hw]
    · exact hw
  | step cancelled j =>
    rw [act_step_walkers, hw, Option.map_some, (stepWalker_rests (Or.inl ht)).1, ite_self]
  | edit ed => exact hw

theorem acts_ended (ht : w.state.isTerminal = true) (cs : List Command) :
    ∀ {e : Engine}, e.walkers[i]? = some w → (e.acts cs).walkers[i]? = some w := by
  induction cs with
  | nil => exact id
  | cons c cs ih => exact fun hw => ih (act_ended hw ht c)

/-- A step of a disengaged walker does nothing. -/
theorem step_disengaged (hw : e.walkers[i]? = some w) (hs : w.state = .disengaged)
    (cancelled : Bool) :
    e.step cancelled i = some (e, ⟨.disengaged, w.position, 0, none⟩) := by
  have hsettled : settled? w = some ⟨.disengaged, w.position, 0, none⟩ := by
    unfold settled?
    rw [hs]
  obtain ⟨hi, rfl⟩ := List.getElem?_eq_some_iff.1 hw
  unfold Engine.step stepWalker
  rw [hw, Option.map_some, hsettled]
  simp only [List.set_getElem_self]

/-! ## What a step runs -/

/-- Whose ability a turn runs: the body knows the walker's architype, or the position's,
as its own, and the fields of the one or the other. -/
structure Turn.Own (w : Walker) (here : ArchKey) (t : Turn) : Prop where
  self : (t.before.occasion here t.event t.invocation).self =
    match t.invocation.side with
    | .walker => w.arch.key
    | .position => here
  position : (t.before.occasion here t.event t.invocation).position = w.position
  fields : ∀ v : Visit, v.fieldsOf t.invocation.side .self =
    match t.invocation.side with
    | .walker => v.walker.fields
    | .position => v.here

/-- **What a step runs**, and how it ends, by the turns it takes. -/
structure Ran (e : Engine) (w : Walker) (inst : Instance) (ts : List Turn)
    (r : Visit × StepOutcome) : Prop where
  /-- Each body was run on what the one before it left, and the first one on arrival. -/
  linked : Visit.Linked inst.arch.key (e.arrive w inst) ts
  /-- The bodies are the first ones of those that are due. -/
  due : ts.map Turn.due <+: w.dues inst.arch
  own : ∀ t ∈ ts, Turn.Own w inst.arch.key t
  /-- They are all of them, unless the last one failed or disengaged the walker. -/
  whole : ts.map Turn.due = w.dues inst.arch ∨ ∃ t, ts.getLast? = some t ∧
    (t.fault.isSome = true ∨ t.after.walker.isDisengaged = true)
  /-- None before the last one did. -/
  stops : ∀ t ∈ ts.dropLast, t.fault = none ∧ t.after.walker.isDisengaged = false
  /-- The bodies that were run are announced, and no others. -/
  announced : r.1.announced = (e.arrive w inst).announced ++ ts.map Turn.announcement
  invocations : r.2.invocations = ts.countP (·.fault.isNone)
  disengaged : r.2.kind = .disengaged ↔ ∃ t ∈ ts, t.after.walker.isDisengaged = true
  failed : r.2.kind = .failed ↔ r.2.kind ≠ .disengaged ∧
    (∃ t ∈ ts, t.fault.isSome = true) ∧ e.haltOnError = true
  moved : r.2.kind = .moved ↔ r.2.kind ≠ .disengaged ∧ r.2.kind ≠ .failed ∧
    ((e.arrive w inst).leftBy ts).HasNext
  completed : r.2.kind = .completed ↔ r.2.kind ≠ .disengaged ∧ r.2.kind ≠ .failed ∧
    ¬ ((e.arrive w inst).leftBy ts).HasNext

theorem stepWalker_ran (hc : e.Coherent known) (one : OneRecord known) (hw : w ∈ e.walkers)
    (ha : w.state.isTerminal = false) (hi : e.store.instanceAt w.position = .ok inst) :
    ∃ ts, e.Ran w inst ts (e.stepWalker false w) := by
  obtain ⟨ts, v, hr, hclose, -⟩ := stepWalker_runs hc one hw ha hi
  have hd := hr.isDisengaged (hc.engaged w hw ha)
  have hleft := hr.leftBy
  have hnext : v.HasNext ↔ ((e.arrive w inst).leftBy ts).HasNext := by
    unfold Visit.HasNext
    rw [hleft.walker, hleft.engine]
  have hfault : (Turn.cause ts).isSome = true ↔ ∃ t ∈ ts, t.fault.isSome = true := by
    rw [Option.isSome_iff_ne_none, ne_eq, Turn.cause_eq_none]
    simp [Option.isSome_iff_ne_none]
  have hhalt : v.engine.haltOnError = e.haltOnError := hr.engine.1
  obtain ⟨hdis, hfailed, hmoved, hcompleted⟩ :=
    (Visit.close_closed v (Turn.succeeded ts) (Turn.cause ts)).kind
  refine ⟨ts, hr.linked, hr.prefix_due, fun t hm => ?_, ?_, fun t hm => ?_, ?_, ?_, ?_, ?_, ?_, ?_⟩
  · obtain ⟨hp, harch⟩ := hr.fixed t hm
    refine ⟨?_, hp, fun v => ?_⟩
    · unfold Visit.occasion
      simp only [harch]
      rfl
    · cases t.invocation.side <;> rfl
  · rcases hr.whole with hall | ⟨t, ht, hl⟩
    · exact Or.inl hall
    · exact Or.inr ⟨t, ht, by simpa [Turn.isLast] using hl⟩
  · exact Turn.isLast_eq_false.1 (hr.isLast_dropLast t hm)
  · rw [hclose, (Visit.close_settles v _ _).announced, hr.announced]
  · rw [hclose, Visit.close_invocations]
    rfl
  all_goals
    rw [hclose]
    simp only [← hnext, ← hd, ← hfault, ← hhalt]
  · exact hdis
  · exact hfailed
  · exact hmoved
  · exact hcompleted

/-- **What a step runs**, in every state of every run from a new engine, whatever the
bodies do; and a walker that the step disengages stays as it is for good, and its steps run
nothing. `one` says that a key names one architype: the records of a registry are such. -/
theorem ran_of_step (registry : Registry) (globals : Option GlobalTable) (haltOnError : Bool)
    (surroundings : Surroundings) (cs : List Command)
    (one : OneRecord (registry.archs ++ cs.flatMap Command.archs)) (i : Nat) (w : Walker)
    (inst : Instance) (hw : ((new registry globals haltOnError surroundings).acts cs).walkers[i]? =
      some w)
    (ha : w.state.isTerminal = false)
    (hi : ((new registry globals haltOnError surroundings).acts cs).store.instanceAt w.position =
      .ok inst) :
    let e := (new registry globals haltOnError surroundings).acts cs
    let r := e.stepWalker false w
    (∃ ts, e.Ran w inst ts r) ∧
      (r.2.kind = .disengaged → ∀ ds cancelled, let e' := (e.act (.step false i)).acts ds
        e'.walkers[i]? = some r.1.walker ∧
          e'.step cancelled i = some (e', ⟨.disengaged, r.1.walker.position, 0, none⟩)) := by
  intro e r
  have hc : e.Coherent (registry.archs ++ cs.flatMap Command.archs) :=
    acts_coherent one cs (new_coherent fun a hm => List.mem_append_left _ hm)
      fun a hm => List.mem_append_right _ hm
  have hm : w ∈ e.walkers := List.mem_of_getElem? hw
  refine ⟨stepWalker_ran hc one hm ha hi, fun hk ds cancelled => ?_⟩
  have hstate : r.1.walker.state = .disengaged := by
    obtain ⟨ts, v, -, hclose, -⟩ := stepWalker_runs hc one hm ha hi
    have hclosed := Visit.close_closed v (Turn.succeeded ts) (Turn.cause ts)
    rw [← hclose] at hclosed
    cases hclosed with
    | disengaged _ _ hs => exact hs
    | failed _ _ _ hk' _ => rw [show r.2.kind = .failed from hk'] at hk; cases hk
    | moved _ _ _ hk' _ => rw [show r.2.kind = .moved from hk'] at hk; cases hk
    | completed _ _ _ hk' _ => rw [show r.2.kind = .completed from hk'] at hk; cases hk
  have hterm : r.1.walker.state.isTerminal = true := by rw [hstate]; rfl
  have hset : (e.act (.step false i)).walkers[i]? = some r.1.walker := by
    obtain ⟨hlt, -⟩ := List.getElem?_eq_some_iff.1 hw
    rw [act_step, show e.walkers[i]? = some w from hw]
    show (r.1.engine.walkers.set i r.1.walker)[i]? = some r.1.walker
    rw [stepWalker_walkers, List.getElem?_set_self hlt]
  have hlater := acts_ended hterm ds hset
  exact ⟨hlater, step_disengaged hlater hstate cancelled⟩

/-- A walker that leaves for good on arrival, before the node can answer it. -/
def parting : List Command :=
  let leave : Ability :=
    { name := "leave", signature := ⟨[], .entry, []⟩, isAbstract := false,
      bound := some (⟨.native, fun _ => Program.disengage⟩, "m"),
      declModule := "m", order := 0, owner := ⟨.walker, "W"⟩ }
  let reply : Ability :=
    { name := "reply", signature := ⟨[], .entry, []⟩, isAbstract := false,
      bound := some (⟨.native, fun _ => Program.report (.bool true)⟩, "m"),
      declModule := "m", order := 0, owner := ⟨.node, "N"⟩ }
  let node := { Architype.new "m" ⟨.node, "N"⟩ with linkedAbilities := [reply] }
  let walker := { Architype.new "m" ⟨.walker, "W"⟩ with linkedAbilities := [leave] }
  [.edit (.createNode node []), .spawn walker (.node 0 1) []]

theorem ran_parting :
    let e := (new .empty none false default).acts parting
    ∃ w inst, OneRecord (Registry.empty.archs ++ parting.flatMap Command.archs) ∧
      e.walkers[0]? = some w ∧ w.state.isTerminal = false ∧
      e.store.instanceAt w.position = .ok inst ∧
      (e.stepWalker false w).2.kind = .disengaged ∧
      ((∃ ts, e.Ran w inst ts (e.stepWalker false w)) ∧
        ((e.stepWalker false w).2.kind = .disengaged → ∀ ds cancelled,
          let e' := (e.act (.step false 0)).acts ds
          e'.walkers[0]? = some (e.stepWalker false w).1.walker ∧ e'.step cancelled 0 =
            some (e', ⟨.disengaged, (e.stepWalker false w).1.walker.position, 0, none⟩))) := by
  have one : OneRecord (Registry.empty.archs ++ parting.flatMap Command.archs) := by
    intro a ha b hb hk
    simp only [Registry.empty, parting, Command.archs, Store.Edit.archs, List.nil_append,
      List.flatMap_cons, List.flatMap_nil, List.append_nil, List.singleton_append, List.mem_cons,
      List.not_mem_nil, or_false] at ha hb
    rcases ha with rfl | rfl <;> rcases hb with rfl | rfl <;>
      first | rfl | (simp [Architype.key, Architype.new] at hk)
  exact ⟨_, _, one, rfl, rfl, rfl, rfl,
    ran_of_step .empty none false default parting one 0 _ _ rfl rfl rfl⟩

end Engine

/-! ## Walkers stand on what is live -/

open Store (Edit)

namespace Engine

variable {e e' : Engine} {w : Walker} {h : Handle} {i : Nat}

/-- Pins and walkers agree, and pins are on live instances. -/
structure Held (e : Engine) : Prop where
  balanced : ∀ h, e.store.pinCount h = standing e.walkers h
  anchored : e.store.Anchored

/-- Only the walkers and the graph count. -/
theorem Held.congr (held : e.Held) (hs : e'.store = e.store) (hw : e'.walkers = e.walkers) :
    e'.Held :=
  ⟨fun h => by rw [hs, hw]; exact held.balanced h, hs ▸ held.anchored⟩

/-- A walker that has not ended has its position pinned. -/
theorem Held.pinned (held : e.Held) (hw : w ∈ e.walkers) (ha : w.state.isTerminal = false) :
    0 < e.store.pinCount w.position := by
  rw [held.balanced]
  exact List.countP_pos_iff.2 ⟨w, hw, by rw [stands_of_active ha, beq_self_eq_true]⟩

/-- **A walker that has not ended stands on a live instance.** -/
theorem Held.instanceAt (held : e.Held) (hw : w ∈ e.walkers) (ha : w.state.isTerminal = false) :
    ∃ inst, e.store.instanceAt w.position = .ok inst :=
  Store.contains_instanceAt (held.anchored _ (List.count_pos_iff.1 (held.pinned hw ha)))

theorem Held.spawn (held : e.Held) {a : Architype} {start : Handle} {args : List (String × Value)}
    (hs : e.spawn a start args = .ok (e', w)) : e'.Held := by
  obtain ⟨s, hp, rfl, hws, hpos, hst⟩ := spawn_eq hs
  refine ⟨fun h => ?_, held.anchored.pin hp⟩
  have ha : w.state.isTerminal = false := by rw [hst]; rfl
  rw [pinCount_pin hp, held.balanced h, hws]
  unfold standing
  rw [List.countP_append, List.countP_singleton, stands_of_active ha, hpos]

theorem Held.step (held : e.Held) (cancelled : Bool) (i : Nat) :
    (e.act (.step cancelled i)).Held := by
  rw [act_step]
  cases hw : e.walkers[i]? with
  | none => exact held
  | some w =>
    by_cases hr : w.state.isTerminal = true ∨ cancelled = true
    · obtain ⟨hi, rfl⟩ := List.getElem?_eq_some_iff.1 hw
      simp only [(stepWalker_rests (e := e) hr).1, List.set_getElem_self]
      exact held
    · obtain ⟨ha, hc⟩ := not_or.1 hr
      rw [Bool.not_eq_true] at ha hc
      subst hc
      have hl := stepWalker_leaves (e := e) ha
      refine ⟨balanced_of_leaves held.balanced hw ha hl, ?_⟩
      -- whatever the bodies have changed, what was pinned is still live
      have hedits : (e.store.editAll (e.stepEdits false w)).Anchored :=
        held.anchored.run ((e.stepEdits false w).map .edit)
      cases hl with
      | ended hws hst hp ht => exact hst ▸ hedits.unpin _
      | moved s hws hpin hst ht => exact hst ▸ (hedits.pin hpin).unpin _

/-- **One command keeps walkers on what is live.** -/
theorem act_held (held : e.Held) (c : Command) : (e.act c).Held := by
  cases c with
  | spawn a start args =>
    unfold act
    simp only
    split
    · rename_i hs
      exact held.spawn hs
    · exact held
  | step cancelled i => exact held.step cancelled i
  | edit ed =>
    exact ⟨fun h => (pinCount_editAll e.store [ed] h).trans (held.balanced h),
      held.anchored.perform (.edit ed)⟩

/-- **A run keeps walkers on what is live**, however long it is. -/
theorem acts_held (cs : List Command) : ∀ {e : Engine}, e.Held → (e.acts cs).Held := by
  induction cs with
  | nil => exact fun held => held
  | cons c cs ih => exact fun held => ih (act_held held c)

theorem new_held {registry : Registry} {globals : Option GlobalTable} {haltOnError : Bool}
    {surroundings : Surroundings} : (new registry globals haltOnError surroundings).Held :=
  ⟨fun _ => rfl, fun _ hm => by cases hm⟩

end Engine

end GraphWalk
