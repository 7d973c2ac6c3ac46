import GraphWalk.Proofs.Walker.Queue

/-!
# What a step tells

What is told of a walker has a fixed shape. A step that is taken is told as a `StepTrace`:
the visit, then the bodies that were run, each with the values it reported, then the error if
one of them failed, then the queue entries that were skipped, and the ending if the walker has
ended. `Told ms` says that between two visits just these moments of the walker are told and
none of any other walker, and `Recounts ms` that the walker's own records grow by what the
moments tell.

Main result: `stepWalker_recounts`. **A step that is taken on a live position is told by one
trace**, and the walker has ended just if the trace has an ending.
-/

namespace GraphWalk

/-- A body that was run, as it is told: its ability, and the values it reported. -/
structure BodyTrace where
  path : Path
  event : Event
  side : Side
  values : List Value

def BodyTrace.moments (b : BodyTrace) : List Moment :=
  .ability b.path b.event b.side :: b.values.map (.report b.path b.event)

def Skip.moment : Skip → Moment
  | .ignored => .skipIgnored
  | .deleted => .skipDeleted

/-- A step that was taken, as it is told. -/
structure StepTrace where
  bodies : List BodyTrace
  error : Option (Event × Fault)
  skips : List Skip
  /-- How the walker has ended in the step, and of what. -/
  ending : Option (Ending × Option Fault)

namespace StepTrace

/-- What is told after the bodies. -/
def closing (t : StepTrace) : List Moment :=
  t.error.toList.map (fun p => .error p.1 p.2) ++ t.skips.map Skip.moment ++
    t.ending.toList.map fun p => p.1.moment p.2

def moments (t : StepTrace) : List Moment :=
  .visit :: t.bodies.flatMap BodyTrace.moments ++ t.closing

end StepTrace

/-- The state of a walker that has ended. -/
def WalkerState.ended? (s : WalkerState) : Option WalkerState :=
  if s.isTerminal then some s else none

/-- The fault that an error event tells. -/
def Moment.error? : Moment → Option Fault
  | .error _ f => some f
  | _ => none

def Moment.isVisit : Moment → Bool
  | .visit => true
  | _ => false

/-- What a signal tells of walker `id`. -/
def Signal.moment? (id : String) : Signal → Option Moment
  | .trace o => if o.walker = id then some o.moment else none
  | _ => none

/-- What has been told of walker `id`, in order. -/
def Engine.story (e : Engine) (id : String) : List Moment :=
  e.signals.toList.filterMap (Signal.moment? id)

theorem Engine.story_emit (e : Engine) (s : Signal) (id : String) :
    (e.emit s).story id = e.story id ++ (s.moment? id).toList := by
  unfold Engine.story Engine.emit
  rw [Array.toList_push, List.filterMap_append]
  cases h : s.moment? id <;> simp [h]

theorem Engine.story_logged (e : Engine) (r : LogRecord) (id : String) :
    (e.logged r).story id = e.story id := by
  unfold Engine.logged
  rw [story_emit, show (Signal.log r).moment? id = none from rfl, Option.toList_none,
    List.append_nil]

/-- An event of a walker is told of that walker only. -/
theorem Engine.story_observed (e : Engine) (w : Walker) (position : Handle) (m : Moment)
    (id : String) :
    (e.observed w position m).story id = e.story id ++ if id = w.id then [m] else [] := by
  unfold Engine.observed
  rw [story_emit]
  unfold Signal.moment?
  by_cases h : id = w.id
  · simp [h]
  · simp [h, Ne.symm h]

namespace Visit

variable {v v' v'' : Visit} {ms ms' : List Moment} {o : Occasion} {side : Side}

/-- From `v` to `v'` just these moments of the walker are told, and nothing of any other. -/
structure Told (ms : List Moment) (v v' : Visit) : Prop where
  id : v'.walker.id = v.walker.id
  named : v'.engine.named = v.engine.named
  surroundings : v'.engine.surroundings = v.engine.surroundings
  story : ∀ id, v'.engine.story id = v.engine.story id ++ if id = v.walker.id then ms else []

/-- Without a new signal nothing is told. -/
theorem Told.of_signals (hid : v'.walker.id = v.walker.id)
    (hn : v'.engine.named = v.engine.named)
    (hs : v'.engine.surroundings = v.engine.surroundings)
    (h : v'.engine.signals = v.engine.signals) : v.Told [] v' := by
  refine ⟨hid, hn, hs, fun id => ?_⟩
  unfold Engine.story
  rw [h, ite_self, List.append_nil]

theorem Told.trans (h : v.Told ms v') (h' : v'.Told ms' v'') : v.Told (ms ++ ms') v'' := by
  refine ⟨h'.id.trans h.id, h'.named.trans h.named, h'.surroundings.trans h.surroundings,
    fun id => ?_⟩
  rw [h'.story, h.story, h.id, List.append_assoc]
  split <;> rfl

theorem observed_told (v : Visit) (position : Handle) (m : Moment) :
    v.Told [m] (v.observed position m) :=
  ⟨rfl, rfl, rfl, Engine.story_observed v.engine v.walker position m⟩

theorem logged_told (v : Visit) (r : LogRecord) : v.Told [] (v.logged r) := by
  refine ⟨rfl, rfl, rfl, fun id => ?_⟩
  rw [ite_self, List.append_nil]
  exact Engine.story_logged _ _ id

/-- Moreover the walker has on record what is told: its steps, its reports and its faults. -/
structure Recounts (ms : List Moment) (v v' : Visit) : Prop extends Told ms v v' where
  steps : v'.walker.steps = v.walker.steps + ms.countP Moment.isVisit
  reports : v'.walker.reports = v.walker.reports ++ ms.filterMap Moment.value?
  faults : v'.walker.faults = v.walker.faults ++ ms.filterMap Moment.error?

/-- What is told of nothing that goes on record, with the records as they were. -/
theorem Told.recounts (h : v.Told ms v') (hv : ms.countP Moment.isVisit = 0)
    (hr : ms.filterMap Moment.value? = []) (hf : ms.filterMap Moment.error? = [])
    (hsteps : v'.walker.steps = v.walker.steps) (hreports : v'.walker.reports = v.walker.reports)
    (hfaults : v'.walker.faults = v.walker.faults) : v.Recounts ms v' :=
  ⟨h, by rw [hv, hsteps, Nat.add_zero], by rw [hr, hreports, List.append_nil],
    by rw [hf, hfaults, List.append_nil]⟩

theorem Recounts.refl (v : Visit) : v.Recounts [] v :=
  (Told.of_signals rfl rfl rfl rfl).recounts rfl rfl rfl rfl rfl rfl

theorem Recounts.trans (h : v.Recounts ms v') (h' : v'.Recounts ms' v'') :
    v.Recounts (ms ++ ms') v'' := by
  refine ⟨h.toTold.trans h'.toTold, ?_, ?_, ?_⟩
  · rw [h'.steps, h.steps, List.countP_append, Nat.add_assoc]
  · rw [h'.reports, h.reports, List.filterMap_append, List.append_assoc]
  · rw [h'.faults, h.faults, List.filterMap_append, List.append_assoc]

/-- Nothing is told and nothing goes on record. -/
theorem recounts_of_eq (hid : v'.walker.id = v.walker.id)
    (hn : v'.engine.named = v.engine.named)
    (hs : v'.engine.surroundings = v.engine.surroundings)
    (h : v'.engine.signals = v.engine.signals) (hsteps : v'.walker.steps = v.walker.steps)
    (hreports : v'.walker.reports = v.walker.reports)
    (hfaults : v'.walker.faults = v.walker.faults) : v.Recounts [] v' :=
  (Told.of_signals hid hn hs h).recounts rfl rfl rfl hsteps hreports hfaults

theorem logged_recounts (v : Visit) (r : LogRecord) : v.Recounts [] (v.logged r) :=
  (logged_told v r).recounts rfl rfl rfl rfl rfl rfl

/-! ## Bodies -/

/-- **A request tells** the value that it reports, and nothing else. -/
theorem answer_recounts (o : Occasion) (side : Side) (v : Visit) (r : Request) :
    ∃ values : List Value,
      v.Recounts (values.map (.report o.path o.event)) (v.answer o side r).1 := by
  -- all requests but one are answered in silence
  have silent : ∀ {u : Visit}, v.Recounts [] u →
      ∃ values : List Value, v.Recounts (values.map (.report o.path o.event)) u :=
    fun h => ⟨[], h⟩
  have created : ∀ key create, v.Recounts [] (v.createdBy key create).1 := by
    intro key create
    unfold createdBy
    split
    · exact .refl v
    · split
      · exact .refl v
      · exact recounts_of_eq rfl rfl rfl rfl rfl rfl rfl
  cases r with
  | report value =>
    let noted : Visit := { v with walker := { v.walker with
      reports := v.walker.reports ++ [value] } }
    have hnoted : v.Told [] noted := .of_signals rfl rfl rfl rfl
    exact ⟨[value], hnoted.trans (observed_told noted o.position _), rfl, rfl,
      (List.append_nil _).symm⟩
  | setField t name value =>
    simp only [answer]
    split
    · unfold withFields
      split <;> exact silent (recounts_of_eq rfl rfl rfl rfl rfl rfl rfl)
    · exact silent (.refl v)
  | visit first targets =>
    simp only [answer]
    split <;> exact silent (recounts_of_eq rfl rfl rfl rfl rfl rfl rfl)
  | createNode arch init => exact silent (created _ _)
  | connect arch source target init => exact silent (created _ _)
  | delete h =>
    simp only [answer]
    split <;> exact silent (recounts_of_eq rfl rfl rfl rfl rfl rfl rfl)
  | global name =>
    simp only [answer]
    split <;> exact silent (.refl v)
  | setGlobal name value =>
    simp only [answer]
    split
    · exact silent (.refl v)
    · split <;> exact silent (recounts_of_eq rfl rfl rfl rfl rfl rfl rfl)
  | log r => exact silent (logged_recounts v r)
  | print text =>
    refine silent (Told.recounts ⟨rfl, rfl, rfl, fun id => ?_⟩ rfl rfl rfl rfl rfl rfl)
    exact (Engine.story_emit v.engine (.print text) id).trans (by rw [ite_self]; rfl)
  | _ => exact silent (recounts_of_eq rfl rfl rfl rfl rfl rfl rfl)

/-- **A program tells** the values that it reports, in order. -/
theorem run_recounts (o : Occasion) (side : Side) {α : Type} (p : Program α) :
    ∀ v : Visit, ∃ values : List Value, v.Recounts (values.map (.report o.path o.event))
      (v.run o side p).1 := by
  induction p with
  | ask r next ih =>
    intro v
    obtain ⟨values, h⟩ := answer_recounts o side v r
    obtain ⟨values', h'⟩ := ih (v.answer o side r).2 (v.answer o side r).1
    refine ⟨values ++ values', ?_⟩
    rw [List.map_append]
    exact h.trans h'
  | _ => exact fun v => ⟨[], .refl v⟩

variable (here : ArchKey) (event : Event)

/-- **A body that is run** is told by its ability and what it reports. -/
theorem invoke_recounts (v : Visit) (inv : Invocation) (body : Body) :
    ∃ values, v.Recounts (BodyTrace.moments ⟨inv.ability.path, event, inv.side, values⟩)
      (v.invoke here event inv body).1 := by
  let announced := v.observed v.walker.position (.ability inv.ability.path event inv.side)
  have hannounced : v.Recounts [.ability inv.ability.path event inv.side] announced :=
    (observed_told v _ _).recounts rfl rfl rfl rfl rfl rfl
  obtain ⟨values, h⟩ := run_recounts (v.occasion here event inv) inv.side
    (body.run (v.occasion here event inv)) announced
  rw [invoke_fst]
  exact ⟨values, hannounced.trans h⟩

/-- **A phase** tells the bodies that it runs, one after the other. -/
theorem dispatch_recounts (invs : List Invocation) :
    ∀ v : Visit, ∃ bs : List BodyTrace, v.Recounts (bs.flatMap BodyTrace.moments)
      (dispatch here event invs v).1 := by
  induction invs with
  | nil => exact fun v => ⟨[], .refl v⟩
  | cons inv rest ih =>
    intro v
    unfold dispatch
    cases inv.ability.bound with
    | none =>
      obtain ⟨bs, h⟩ := ih (v.logged ⟨.debug, "Skipping abstract ability.",
        [("ability", .text inv.ability.path.text)]⟩)
      exact ⟨bs, (logged_recounts v _).trans h⟩
    | some bound =>
      obtain ⟨values, hinvoke⟩ := v.invoke_recounts here event inv bound.1
      let b : BodyTrace := ⟨inv.ability.path, event, inv.side, values⟩
      have hone : v.Recounts ([b].flatMap BodyTrace.moments)
          (v.invoke here event inv bound.1).1 := by
        rwa [List.flatMap_singleton]
      simp only
      cases hi : v.invoke here event inv bound.1 with
      | mk v' fault =>
        rw [hi] at hone
        cases fault with
        | some f => exact ⟨[b], hone⟩
        | none =>
          simp only
          -- a body that disengages the walker is the last one
          split
          · exact ⟨[b], hone⟩
          · obtain ⟨bs, h⟩ := ih v'
            have hall := hone.trans h
            rw [← List.flatMap_append] at hall
            exact ⟨[b] ++ bs, hall⟩

/-- **The bodies of a step** are told one after the other. -/
theorem bodies_recounts (here : Architype) (events : List Event) :
    ∀ v : Visit, ∃ bs : List BodyTrace, v.Recounts (bs.flatMap BodyTrace.moments)
      (bodies here events v).1 := by
  induction events with
  | nil => exact fun v => ⟨[], .refl v⟩
  | cons event rest ih =>
    intro v
    unfold bodies
    cases v.engine.table.lookup v.engine.registry.epoch v.walker.arch here event with
    | mk table invs =>
      let u : Visit := { v with engine := { v.engine with table } }
      have hu : v.Recounts [] u := recounts_of_eq rfl rfl rfl rfl rfl rfl rfl
      obtain ⟨bs, hphase⟩ := dispatch_recounts here.key event invs u
      have hphase := hu.trans hphase
      rw [List.nil_append] at hphase
      simp only
      cases hd : dispatch here.key event invs u with
      | mk v' r =>
        rw [hd] at hphase
        obtain ⟨n, cause⟩ := r
        cases cause with
        | some f => exact ⟨bs, hphase⟩
        | none =>
          simp only
          split
          · exact ⟨bs, hphase⟩
          · obtain ⟨bs', h⟩ := ih v'
            refine ⟨bs ++ bs', ?_⟩
            rw [List.flatMap_append]
            exact hphase.trans h

/-- The bodies of a step do not end the walker. -/
theorem bodies_stays (here : Architype) (events : List Event) (v : Visit) :
    v.Stays (bodies here events v).1 := by
  have stays : Accrues (β := Unit) (fun _ _ _ _ => []) fun _ v v' => v.Stays v' :=
    { refl := Stays.refl
      trans := Stays.trans
      answer := fun _ _ _ r => answer_stays r
      announced := fun v position path event side => observed_stays v position _
      logged := logged_stays
      table := fun _ _ => ⟨rfl, rfl, rfl⟩ }
  exact stays.bodies here events v

/-! ## What comes after the bodies -/

/-- **The search for the next position** tells what it skips. -/
theorem advance_recounts (queue : List Handle) :
    ∀ v : Visit, ∃ skips : List Skip, v.Recounts (skips.map Skip.moment) (advance queue v).1 := by
  induction queue with
  | nil => exact fun v => ⟨[], recounts_of_eq rfl rfl rfl rfl rfl rfl rfl⟩
  | cons h rest ih =>
    intro v
    unfold advance
    split
    · obtain ⟨skips, hr⟩ := ih (v.observed h .skipIgnored)
      have hskip : v.Recounts [.skipIgnored] (v.observed h .skipIgnored) :=
        (observed_told v h _).recounts rfl rfl rfl rfl rfl rfl
      exact ⟨.ignored :: skips, hskip.trans hr⟩
    · cases hp : v.engine.store.pin h with
      | error err =>
        let noted := v.logged ⟨.debug, "Skipping deleted position.", [("position", .text h.text)]⟩
        obtain ⟨skips, hr⟩ := ih (noted.observed h .skipDeleted)
        have hskip : noted.Recounts [.skipDeleted] (noted.observed h .skipDeleted) :=
          (observed_told noted h _).recounts rfl rfl rfl rfl rfl rfl
        exact ⟨.deleted :: skips, ((logged_recounts v _).trans hskip).trans hr⟩
      | ok s => exact ⟨[], recounts_of_eq rfl rfl rfl rfl rfl rfl rfl⟩

/-- **The end of a walker** is told, once. -/
theorem finish_recounts (v : Visit) (ending : Ending) (invoked : Nat) (cause : Option Fault) :
    v.Recounts [ending.moment cause] (v.finish ending invoked cause).1 := by
  have hended : v.Recounts [] { v.withStore (v.engine.store.unpin v.walker.position) with
      walker := { v.walker with state := ending.state } } :=
    recounts_of_eq rfl rfl rfl rfl rfl rfl rfl
  have hlogged := hended.trans (logged_recounts _ ⟨.debug, "Walker finished.",
    [("state", .text ending.state.text), ("steps", .count v.walker.steps),
      ("reports", .count v.walker.reports.length)]⟩)
  refine hlogged.trans (Told.recounts (observed_told _ v.walker.position _) ?_ ?_ ?_ rfl rfl rfl)
  all_goals cases ending <;> rfl

/-- At the end of a step it is told what is skipped, and that the walker has completed if
there is nowhere to go. -/
theorem conclude_recounts (ha : v.walker.state.isTerminal = false) (invoked : Nat)
    (cause : Option Fault) : ∃ (skips : List Skip) (ending : Option (Ending × Option Fault)),
      v.Recounts (skips.map Skip.moment ++ ending.toList.map fun p => p.1.moment p.2)
        (v.conclude invoked cause).1 ∧
      ending.map (·.1.state) = (v.conclude invoked cause).1.walker.state.ended? := by
  obtain ⟨skips, hs⟩ := advance_recounts v.walker.queue v
  have hstate := advance_state v.walker.queue v
  unfold conclude
  cases hadv : advance v.walker.queue v with
  | mk v' found =>
    rw [hadv] at hs hstate
    cases found with
    | true =>
      refine ⟨skips, none, by rwa [Option.toList_none, List.map_nil, List.append_nil], ?_⟩
      simp only at hstate ⊢
      simp [WalkerState.ended?, hstate, ha]
    | false =>
      exact ⟨skips, some (.completed, cause),
        hs.trans (finish_recounts v' .completed invoked cause), rfl⟩

/-- **What comes after the bodies** is told as the closing of a step. -/
theorem close_recounts (ha : v.walker.state.isTerminal = false) (invoked : Nat)
    (cause : Option (Event × Fault)) (bodies : List BodyTrace) :
    ∃ t : StepTrace, t.bodies = bodies ∧ v.Recounts t.closing (v.close invoked cause).1 ∧
      t.ending.map (·.1.state) = (v.close invoked cause).1.walker.state.ended? := by
  unfold close
  split
  · exact ⟨⟨bodies, none, [], some (.disengaged, cause.map Prod.snd)⟩, rfl,
      finish_recounts v .disengaged invoked (cause.map Prod.snd), rfl⟩
  · split
    · rename_i event f
      -- the fault goes on record and is told; then the walker stops or goes on
      let noted : Visit := { v with walker := { v.walker with faults := v.walker.faults ++ [f] } }
      have hnoted : v.Told [] noted := .of_signals rfl rfl rfl rfl
      have herror : v.Recounts [.error event f]
          (noted.observed v.walker.position (.error event f)) :=
        ⟨hnoted.trans (observed_told noted _ _), rfl, (List.append_nil _).symm, rfl⟩
      unfold afterFault
      simp only
      split
      · exact ⟨⟨bodies, some (event, f), [], some (.failed, some f)⟩, rfl,
          herror.trans (finish_recounts _ .failed invoked (some f)), rfl⟩
      · obtain ⟨skips, ending, hc, he⟩ := conclude_recounts (v := (noted.observed v.walker.position
          (.error event f)).logged ⟨.warn, "Ability failed, continuing with queue.",
            [("position", .text v.walker.position.text), ("error", .text f.message)]⟩) ha invoked
          (some f)
        refine ⟨⟨bodies, some (event, f), skips, ending⟩, rfl, ?_, he⟩
        unfold StepTrace.closing
        rw [List.append_assoc]
        exact herror.trans ((logged_recounts _ _).trans hc)
    · obtain ⟨skips, ending, hc, he⟩ := conclude_recounts ha invoked none
      exact ⟨⟨bodies, none, skips, ending⟩, rfl, hc, he⟩

end Visit

namespace Engine

variable {e : Engine} {w : Walker}

/-- **A step that is taken on a live position** is told by one trace, and the walker has ended
just if the trace has an ending. -/
theorem stepWalker_recounts (ha : w.state.isTerminal = false) {inst : Instance}
    (hi : e.store.instanceAt w.position = .ok inst) :
    ∃ t : StepTrace, (⟨e, w, .empty⟩ : Visit).Recounts t.moments (e.stepWalker false w).1 ∧
      t.ending.map (·.1.state) = (e.stepWalker false w).1.walker.state.ended? := by
  -- a step starts with the visit, which counts as one more
  have hstart : (⟨e, w, .empty⟩ : Visit).Recounts [.visit] (e.start w inst) := by
    have harrived : (⟨e, w, .empty⟩ : Visit).Told [] (e.arrive w inst) :=
      .of_signals rfl rfl rfl rfl
    have htold := (harrived.trans (Visit.logged_told _ ⟨.debug, "Visiting position.",
      [("position", .text w.position.text), ("arch", .text inst.arch.name)]⟩)).trans
        (Visit.observed_told _ w.position .visit)
    exact ⟨htold, rfl, (List.append_nil _).symm, (List.append_nil _).symm⟩
  obtain ⟨bodies, hbodies⟩ :=
    Visit.bodies_recounts inst.arch [.entry, .exit] (e.start w inst)
  have hstays := Visit.bodies_stays inst.arch [.entry, .exit] (e.start w inst)
  have hworked : e.worked w = (Visit.bodies inst.arch [.entry, .exit] (e.start w inst)).1 := by
    unfold worked
    rw [hi]
  rw [← hworked] at hbodies hstays
  -- no body ends the walker, so what comes after the bodies finds it active
  have hactive : (e.worked w).walker.state.isTerminal = false := by
    rw [hstays.state]
    rfl
  obtain ⟨invoked, cause, hclose⟩ := stepWalker_eq_close ha hi
  obtain ⟨t, rfl, hclosing, hending⟩ := Visit.close_recounts hactive invoked cause bodies
  rw [hclose]
  exact ⟨t, (hstart.trans hbodies).trans hclosing, hending⟩

end Engine

end GraphWalk
