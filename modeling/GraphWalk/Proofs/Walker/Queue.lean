import GraphWalk.Proofs.Walker.Bodies

/-!
# What becomes of queue entries

A call that is answered without a fault puts its targets into the queue, at the end or in
front (`QueueCall`, `queueCalls`). An entry leaves the queue at the end of a step: it is
skipped, which is told with the reason (`Skip`), or the walker moves to it. `Flows` says
which entries leave, by what the bodies of the step have left; `Stepped.Advances` says it of
a step that is taken, and `Stepped.flow` that nothing else happens to the queue.

Main result: `conserved_of_run`. **Whatever was put into the queue of a walker has been
visited, was skipped or is still there**, and without calls that put targets in front it
leaves in the order in which it came.
-/

namespace GraphWalk

/-- Targets that were put into a queue. -/
structure QueueCall where
  /-- Whether they were put in front. -/
  first : Bool
  targets : List Handle

/-- The queue after a call. -/
def QueueCall.onto (c : QueueCall) (queue : List Handle) : List Handle :=
  if c.first then c.targets ++ queue else queue ++ c.targets

namespace QueueCall

/-- The queue after several calls, in order. -/
def replay (calls : List QueueCall) (queue : List Handle) : List Handle :=
  calls.foldl (fun queue c => c.onto queue) queue

/-- All that was put into a queue, in order. -/
def enqueued (calls : List QueueCall) : List Handle := calls.flatMap targets

variable {calls calls' : List QueueCall} {queue queue' : List Handle}

theorem replay_append :
    replay (calls ++ calls') queue = replay calls' (replay calls queue) := List.foldl_append

theorem enqueued_append : enqueued (calls ++ calls') = enqueued calls ++ enqueued calls' :=
  List.flatMap_append

/-- Calls add what they put into the queue, and take nothing away. -/
theorem replay_perm (calls : List QueueCall) :
    ∀ queue, (replay calls queue).Perm (queue ++ enqueued calls) := by
  induction calls with
  | nil => intro queue; simp [replay, enqueued]
  | cons c calls ih =>
    intro queue
    have hstep : (c.onto queue).Perm (queue ++ c.targets) := by
      unfold onto
      split
      · exact List.perm_append_comm
      · exact List.Perm.refl _
    have hrest := (ih (c.onto queue)).trans (hstep.append_right _)
    rwa [List.append_assoc] at hrest

/-- Calls that put nothing in front add it at the end, in order. -/
theorem replay_last (calls : List QueueCall) (h : ∀ c ∈ calls, c.first = false) :
    ∀ queue, replay calls queue = queue ++ enqueued calls := by
  induction calls with
  | nil => intro queue; simp [replay, enqueued]
  | cons c calls ih =>
    intro queue
    -- this call sets its targets behind the queue, and the others theirs behind it
    have hstep : c.onto queue = queue ++ c.targets := by
      unfold onto
      rw [h c List.mem_cons_self]
      rfl
    have hrest := ih (fun c' hm => h c' (List.mem_cons_of_mem c hm)) (c.onto queue)
    rw [hstep, List.append_assoc] at hrest
    exact (congrArg (replay calls) hstep).trans hrest

end QueueCall

/-- Why an entry of a queue is passed over. -/
inductive Skip where
  | ignored
  | deleted
deriving DecidableEq

def Moment.skip? : Moment → Option Skip
  | .skipIgnored => some .ignored
  | .skipDeleted => some .deleted
  | _ => none

/-- The entry that walker `id` has skipped, if a signal tells of one. -/
def Signal.skip? (id : String) : Signal → Option (Handle × Skip)
  | .trace o => if o.walker = id then o.moment.skip?.map (o.position, ·) else none
  | _ => none

namespace Visit

open QueueCall (replay)

variable {v v' v'' : Visit} {o : Occasion} {side : Side} {calls : List QueueCall}
  {skips skips' : List (Handle × Skip)}

/-- The calls for the queue that are answered without a fault. -/
def queueCalls : Note QueueCall
  | o, side, v, .visit first targets =>
    match (v.answer o side (.visit first targets)).2 with
    | Except.ok _ => [⟨first, targets⟩]
    | Except.error _ => []
  | _, _, _, _ => []

/-- Whether there is this reason to pass over a handle. -/
def Skips (v : Visit) (h : Handle) : Skip → Prop
  | .ignored => h ∈ v.walker.ignored
  | .deleted => h ∉ v.walker.ignored ∧ v.engine.store.contains h = false

/-- From `v` to `v'` just these skips of the walker are told. -/
structure Tells (skips : List (Handle × Skip)) (v v' : Visit) : Prop where
  id : v'.walker.id = v.walker.id
  signals : ∃ ss, v'.engine.signals.toList = v.engine.signals.toList ++ ss ∧
    ss.filterMap (Signal.skip? v.walker.id) = skips

theorem Tells.of_signals (hid : v'.walker.id = v.walker.id)
    (hs : v'.engine.signals = v.engine.signals) : v.Tells [] v' :=
  ⟨hid, [], by rw [hs, List.append_nil], rfl⟩

theorem Tells.refl (v : Visit) : v.Tells [] v := Tells.of_signals rfl rfl

theorem Tells.trans (h : v.Tells skips v') (h' : v'.Tells skips' v'') :
    v.Tells (skips ++ skips') v'' := by
  obtain ⟨ss, hs, hskips⟩ := h.signals
  obtain ⟨ss', hs', hskips'⟩ := h'.signals
  refine ⟨h'.id.trans h.id, ss ++ ss', ?_, ?_⟩
  · rw [hs', hs, List.append_assoc]
  · rw [List.filterMap_append, hskips, ← h.id, hskips']

/-- A signal tells of the skip that it names, if it names one. -/
theorem emit_tells (v : Visit) (s : Signal) :
    v.Tells (Signal.skip? v.walker.id s).toList { v with engine := v.engine.emit s } := by
  refine ⟨rfl, [s], Array.toList_push, ?_⟩
  cases h : Signal.skip? v.walker.id s <;> simp [h]

theorem observed_tells (v : Visit) (position : Handle) (m : Moment) :
    v.Tells (m.skip?.map (position, ·)).toList (v.observed position m) := by
  have h := emit_tells v (.trace ⟨v.walker.id, v.walker.arch.name, position, if position.isNil
    then "" else ((v.engine.store.instance? position).map (·.arch.name)).getD "", m⟩)
  simp only [Signal.skip?, if_true] at h
  exact h

/-- Other moments tell of no skip. -/
theorem observed_tells_none (v : Visit) (position : Handle) {m : Moment} (hm : m.skip? = none) :
    v.Tells [] (v.observed position m) := by
  have h := observed_tells v position m
  rwa [hm] at h

/-- A log record tells of no skip. -/
theorem logged_tells (v : Visit) (r : LogRecord) : v.Tells [] (v.logged r) :=
  emit_tells v (.log _)

/-- From `v` to `v'` the walker stays, and just these calls change its queue. -/
structure Queues (calls : List QueueCall) (v v' : Visit) : Prop extends Tells [] v v' where
  queue : v'.walker.queue = replay calls v.walker.queue
  position : v'.walker.position = v.walker.position

theorem Tells.queues (h : v.Tells [] v') (hq : v'.walker.queue = v.walker.queue)
    (hp : v'.walker.position = v.walker.position) : v.Queues [] v' := ⟨h, hq, hp⟩

theorem queues_of_eq (hid : v'.walker.id = v.walker.id)
    (hs : v'.engine.signals = v.engine.signals) (hq : v'.walker.queue = v.walker.queue)
    (hp : v'.walker.position = v.walker.position) : v.Queues [] v' :=
  (Tells.of_signals hid hs).queues hq hp

/-- **A call with a target that is gone** is refused, and changes nothing. -/
theorem answer_visit_gone (o : Occasion) (side : Side) (v : Visit) (first : Bool)
    (targets : List Handle) (h : ∃ t ∈ targets, v.engine.store.contains t = false) :
    (v.answer o side (.visit first targets)).1 = v ∧
      queueCalls o side v (.visit first targets) = [] := by
  have hsome : (targets.find? fun t => !v.engine.store.contains t).isSome = true := by
    rw [List.find?_isSome]
    obtain ⟨t, ht, hgone⟩ := h
    exact ⟨t, ht, by rw [hgone]; rfl⟩
  obtain ⟨t, ht⟩ := Option.isSome_iff_exists.1 hsome
  simp only [queueCalls, answer, ht, and_self]

/-- A call whose targets are all live is answered, and puts them into the queue. -/
theorem answer_visit_live (o : Occasion) (side : Side) (v : Visit) (first : Bool)
    (targets : List Handle) (h : ∀ t ∈ targets, v.engine.store.contains t = true) :
    (v.answer o side (.visit first targets)).1 =
        { v with walker := v.walker.enqueue first targets } ∧
      queueCalls o side v (.visit first targets) = [⟨first, targets⟩] := by
  have hnone : (targets.find? fun t => !v.engine.store.contains t) = none := by
    rw [List.find?_eq_none]
    intro t ht
    simp [h t ht]
  simp only [queueCalls, answer, hnone, and_self]

/-- **No request changes the queue** but by the calls that are noted. -/
theorem answer_queues (o : Occasion) (side : Side) (v : Visit) (r : Request) :
    v.Queues (queueCalls o side v r) (v.answer o side r).1 := by
  have created : ∀ key create, v.Queues [] (v.createdBy key create).1 := by
    intro key create
    unfold createdBy
    split
    · exact queues_of_eq rfl rfl rfl rfl
    · split <;> exact queues_of_eq rfl rfl rfl rfl
  cases r with
  | visit first targets =>
    -- all targets are live, or the call is refused
    by_cases h : ∀ t ∈ targets, v.engine.store.contains t = true
    · obtain ⟨hv, hcalls⟩ := answer_visit_live o side v first targets h
      rw [hv, hcalls]
      exact ⟨Tells.of_signals rfl rfl, rfl, rfl⟩
    · obtain ⟨hv, hcalls⟩ := answer_visit_gone o side v first targets (by simpa using h)
      rw [hv, hcalls]
      exact queues_of_eq rfl rfl rfl rfl
  | setField t name value =>
    simp only [answer]
    split
    · unfold withFields
      split <;> exact queues_of_eq rfl rfl rfl rfl
    · exact queues_of_eq rfl rfl rfl rfl
  | report value =>
    have hnoted : v.Tells [] { v with walker := { v.walker with
        reports := v.walker.reports ++ [value] } } := Tells.of_signals rfl rfl
    exact (hnoted.trans (observed_tells_none _ o.position rfl)).queues rfl rfl
  | createNode arch init => exact created _ _
  | connect arch source target init => exact created _ _
  | delete h =>
    simp only [answer]
    split <;> exact queues_of_eq rfl rfl rfl rfl
  | global name =>
    simp only [answer]
    split <;> exact queues_of_eq rfl rfl rfl rfl
  | setGlobal name value =>
    simp only [answer]
    split
    · exact queues_of_eq rfl rfl rfl rfl
    · split <;> exact queues_of_eq rfl rfl rfl rfl
  | log r => exact (logged_tells v r).queues rfl rfl
  | print text => exact (emit_tells v (.print text)).queues rfl rfl
  | _ => exact queues_of_eq rfl rfl rfl rfl

/-- **The bodies of a step** change the queue by their calls, and skip nothing. -/
theorem accrues_queueCalls : Accrues queueCalls Queues where
  refl v := queues_of_eq rfl rfl rfl rfl
  trans h h' := ⟨h.toTells.trans h'.toTells,
    by rw [h'.queue, h.queue, QueueCall.replay_append], h'.position.trans h.position⟩
  answer := answer_queues
  announced v position path event side :=
    (observed_tells_none v position rfl).queues rfl rfl
  logged v r := (logged_tells v r).queues rfl rfl
  table v table := queues_of_eq rfl rfl rfl rfl

/-! ## What comes after the bodies -/

/-- How the queue that the bodies have left goes on: the entries that are skipped come
first in it, each with a reason, and the walker moves to the one behind them. -/
structure Flows (skips : List (Handle × Skip)) (v : Visit) (r : Visit × StepOutcome) : Prop where
  tells : v.Tells skips r.1
  skipped : ∀ p ∈ skips, v.Skips p.1 p.2
  moved : r.2.kind = .moved →
    v.walker.queue = skips.map Prod.fst ++ r.1.walker.position :: r.1.walker.queue ∧
      r.1.walker.position ∉ v.walker.ignored ∧
      v.engine.store.contains r.1.walker.position = true
  completed : r.2.kind = .completed → v.walker.queue = skips.map Prod.fst ∧
    r.1.walker.queue = [] ∧ r.1.walker.position = v.walker.position
  stopped : r.2.kind ≠ .moved → r.2.kind ≠ .completed →
    skips = [] ∧ r.1.walker.queue = v.walker.queue ∧ r.1.walker.position = v.walker.position

/-- What is told or noted before, other than a skip, does not matter. -/
theorem Flows.of_tells {r : Visit × StepOutcome} (ht : v.Tells [] v')
    (hq : v'.walker.queue = v.walker.queue) (hi : v'.walker.ignored = v.walker.ignored)
    (hp : v'.walker.position = v.walker.position) (hs : v'.engine.store = v.engine.store)
    (h : v'.Flows skips r) : v.Flows skips r := by
  refine ⟨ht.trans h.tells, fun p hm => ?_, fun hk => ?_, fun hk => ?_, fun hk hk' => ?_⟩
  · have := h.skipped p hm
    unfold Skips at this ⊢
    rwa [hi, hs] at this
  · have := h.moved hk
    rwa [hq, hi, hs] at this
  · have := h.completed hk
    rwa [hq, hp] at this
  · have := h.stopped hk hk'
    rwa [hq, hp] at this

/-- What the search for the next position does: some entries are skipped, up to the first
that is live and not ignored, or all of them. -/
structure Searches (queue : List Handle) (skips : List (Handle × Skip)) (v : Visit)
    (r : Visit × Bool) : Prop where
  tells : v.Tells skips r.1
  skipped : ∀ p ∈ skips, v.Skips p.1 p.2
  found : r.2 = true →
    queue = skips.map Prod.fst ++ r.1.walker.position :: r.1.walker.queue ∧
      r.1.walker.position ∉ v.walker.ignored ∧
      v.engine.store.contains r.1.walker.position = true
  exhausted : r.2 = false → queue = skips.map Prod.fst ∧
    r.1.walker.queue = [] ∧ r.1.walker.position = v.walker.position

/-- The search goes on behind an entry that is skipped. -/
theorem Searches.cons {h : Handle} {why : Skip} {rest : List Handle} {r : Visit × Bool}
    (hwhy : v.Skips h why) (ht : v.Tells [(h, why)] v') (hw : v'.walker = v.walker)
    (hs : v'.engine.store = v.engine.store) (hr : v'.Searches rest skips r) :
    v.Searches (h :: rest) ((h, why) :: skips) r := by
  refine ⟨ht.trans hr.tells, fun p hm => ?_, fun hb => ?_, fun hb => ?_⟩
  · rcases List.mem_cons.1 hm with rfl | hm
    · exact hwhy
    · have := hr.skipped p hm
      unfold Skips at this ⊢
      rwa [hw, hs] at this
  · obtain ⟨hq, hi, hc⟩ := hr.found hb
    rw [hw] at hi
    rw [hs] at hc
    exact ⟨congrArg (h :: ·) hq, hi, hc⟩
  · obtain ⟨hq, hnil, hp⟩ := hr.exhausted hb
    exact ⟨congrArg (h :: ·) hq, hnil, by rw [hp, hw]⟩

/-- **The search for the next position** skips what is ignored or gone, and nothing else. -/
theorem advance_searches (queue : List Handle) :
    ∀ v : Visit, ∃ skips, v.Searches queue skips (advance queue v) := by
  induction queue with
  | nil =>
    intro v
    refine ⟨[], Tells.of_signals rfl rfl, fun p hm => ?_, fun hb => ?_,
      fun _ => ⟨rfl, rfl, rfl⟩⟩
    · cases hm
    · cases hb
  | cons h rest ih =>
    intro v
    unfold advance
    split
    · rename_i hi
      have hi : h ∈ v.walker.ignored := List.contains_iff_mem.1 hi
      obtain ⟨skips, hr⟩ := ih (v.observed h .skipIgnored)
      have hwhy : v.Skips h .ignored := hi
      exact ⟨_, hr.cons hwhy (observed_tells v h .skipIgnored) rfl rfl⟩
    · rename_i hi
      have hi : h ∉ v.walker.ignored := fun hm => hi (List.contains_iff_mem.2 hm)
      cases hp : v.engine.store.pin h with
      | error err =>
        -- what cannot be pinned is gone
        have hgone : v.engine.store.contains h = false := Store.contains_of_pin_error hp
        obtain ⟨skips, hr⟩ := ih ((v.logged ⟨.debug, "Skipping deleted position.",
          [("position", .text h.text)]⟩).observed h .skipDeleted)
        have htold := (logged_tells v ⟨.debug, "Skipping deleted position.",
          [("position", .text h.text)]⟩).trans (observed_tells _ h .skipDeleted)
        have hwhy : v.Skips h .deleted := ⟨hi, hgone⟩
        exact ⟨_, hr.cons hwhy htold rfl rfl⟩
      | ok s =>
        refine ⟨[], Tells.of_signals rfl rfl, fun p hm => ?_, fun _ => ?_, fun hb => ?_⟩
        · cases hm
        · exact ⟨rfl, hi, (Store.pin_eq hp).1⟩
        · cases hb

/-- The end of a walker tells of no skip. -/
theorem finish_tells (v : Visit) (ending : Ending) (invoked : Nat) (cause : Option Fault) :
    v.Tells [] (v.finish ending invoked cause).1 := by
  have hunpinned : v.Tells [] { v.withStore (v.engine.store.unpin v.walker.position) with
      walker := { v.walker with state := ending.state } } := Tells.of_signals rfl rfl
  have hlogged := hunpinned.trans (logged_tells _ ⟨.debug, "Walker finished.",
    [("state", .text ending.state.text), ("steps", .count v.walker.steps),
      ("reports", .count v.walker.reports.length)]⟩)
  have hmoment : (ending.moment cause).skip? = none := by cases ending <;> rfl
  exact hlogged.trans (observed_tells_none _ v.walker.position hmoment)

/-- A walker that ends keeps its queue. -/
theorem finish_flows (v : Visit) (ending : Ending) (hc : ending ≠ .completed) (invoked : Nat)
    (cause : Option Fault) : v.Flows [] (v.finish ending invoked cause) := by
  refine ⟨finish_tells v ending invoked cause, fun p hm => ?_, fun hk => ?_, fun hk => ?_,
    fun _ _ => ⟨rfl, rfl, rfl⟩⟩
  · cases hm
  · cases ending <;> cases hk
  · cases ending
    · exact absurd rfl hc
    · cases hk
    · cases hk

/-- At the end of a step the walker moves to the entry that is found, or has completed. -/
theorem conclude_flows (v : Visit) (invoked : Nat) (cause : Option Fault) :
    ∃ skips, v.Flows skips (v.conclude invoked cause) := by
  obtain ⟨skips, hs⟩ := advance_searches v.walker.queue v
  refine ⟨skips, ?_⟩
  unfold conclude
  cases hadv : advance v.walker.queue v with
  | mk v' found =>
    rw [hadv] at hs
    cases found with
    | true =>
      refine ⟨hs.tells, hs.skipped, fun _ => hs.found rfl, fun hk => ?_, fun hk => ?_⟩
      · cases hk
      · exact absurd rfl hk
    | false =>
      obtain ⟨hq, hnil, hp⟩ := hs.exhausted rfl
      have htold := hs.tells.trans (finish_tells v' .completed invoked cause)
      rw [List.append_nil] at htold
      refine ⟨htold, hs.skipped, fun hk => ?_, fun _ => ⟨hq, hnil, hp⟩, fun _ hk => ?_⟩
      · cases hk
      · exact absurd rfl hk

/-- **What comes after the bodies** takes entries out of the queue from its front only. -/
theorem close_flows (v : Visit) (invoked : Nat) (cause : Option (Event × Fault)) :
    ∃ skips, v.Flows skips (v.close invoked cause) := by
  unfold close
  split
  · exact ⟨[], finish_flows v .disengaged (by decide) invoked _⟩
  · split
    · rename_i event f
      -- the fault is noted and told, which leaves the queue alone
      let noted : Visit := { v with walker := { v.walker with faults := v.walker.faults ++ [f] } }
      have hnoted : v.Tells [] noted := Tells.of_signals rfl rfl
      have htold := hnoted.trans
        (observed_tells_none noted v.walker.position (m := .error event f) rfl)
      unfold afterFault
      simp only
      split
      · exact ⟨[], (finish_flows _ .failed (by decide) invoked _).of_tells htold rfl rfl rfl rfl⟩
      · obtain ⟨skips, hf⟩ := conclude_flows _ invoked (some f)
        exact ⟨skips, hf.of_tells (htold.trans (logged_tells _ _)) rfl rfl rfl rfl⟩
    · exact conclude_flows v invoked none

end Visit

namespace QueueCall

/-- What was in a queue or put into it has left it or is still in it; if nothing was put in
front, in the same order. -/
structure Conserves (calls : List QueueCall) (queue exits queue' : List Handle) : Prop where
  perm : (queue ++ enqueued calls).Perm (exits ++ queue')
  order : (∀ c ∈ calls, c.first = false) → queue ++ enqueued calls = exits ++ queue'

variable {calls calls' : List QueueCall} {queue queue' queue'' exits exits' : List Handle}

theorem Conserves.of_replay (h : replay calls queue = exits ++ queue') :
    Conserves calls queue exits queue' := by
  refine ⟨?_, fun hlast => ?_⟩
  · have hperm := (replay_perm calls queue).symm
    rwa [h] at hperm
  · rw [← replay_last calls hlast queue, h]

/-- What leaves first leaves before all that is put into the queue later. -/
theorem Conserves.trans (h : Conserves calls queue exits queue')
    (h' : Conserves calls' queue' exits' queue'') :
    Conserves (calls ++ calls') queue (exits ++ exits') queue'' := by
  -- what the second part puts in is set behind the queue that the first part has left
  refine ⟨?_, fun hlast => ?_⟩
  · have hfirst := h.perm.append_right (enqueued calls')
    have hrest := h'.perm.append_left exits
    rw [List.append_assoc] at hfirst
    rw [enqueued_append, ← List.append_assoc, List.append_assoc exits]
    rw [← List.append_assoc queue, List.append_assoc exits] at hfirst
    exact hfirst.trans hrest
  · have hfirst := h.order fun c hm => hlast c (List.mem_append_left _ hm)
    have hrest := h'.order fun c hm => hlast c (List.mem_append_right _ hm)
    rw [enqueued_append, ← List.append_assoc, hfirst, List.append_assoc, hrest,
      List.append_assoc]

end QueueCall

namespace Engine

open QueueCall (replay enqueued Conserves)

variable {e : Engine} {w : Walker} {i : Nat}

/-- A walker that has ended, or whose step is cancelled, does not move. -/
theorem stepWalker_rests_kind {cancelled : Bool}
    (h : w.state.isTerminal = true ∨ cancelled = true) :
    (e.stepWalker cancelled w).2.kind ≠ .moved := by
  rw [← settled?_isSome] at h
  unfold stepWalker
  cases hs : settled? w with
  | some outcome =>
    unfold settled? at hs
    intro hk
    cases hstate : w.state <;> rw [hstate] at hs <;> cases hs <;> cases hk
  | none =>
    rcases h with h | rfl
    · rw [hs] at h; cases h
    · intro hk
      cases hk

/-- A step of a walker, by what it starts from. -/
structure Stepped where
  engine : Engine
  cancelled : Bool
  walker : Walker

namespace Stepped

def result (s : Stepped) : Visit × StepOutcome := s.engine.stepWalker s.cancelled s.walker

/-- What its bodies have left. -/
def worked (s : Stepped) : Visit := s.engine.worked s.walker

/-- The calls of its bodies that put something into the queue. -/
def calls (s : Stepped) : List QueueCall :=
  s.engine.stepNotes Visit.queueCalls s.cancelled s.walker

/-- The entries it tells to have skipped, in order. -/
def skips (s : Stepped) : List (Handle × Skip) :=
  (s.result.1.engine.signals.toList.drop s.engine.signals.size).filterMap
    (Signal.skip? s.walker.id)

/-- The position it has moved to. -/
def moves (s : Stepped) : List Handle :=
  if s.result.2.kind = .moved then [s.result.1.walker.position] else []

/-- The entries that have left the queue, in order. -/
def exits (s : Stepped) : List Handle := s.skips.map Prod.fst ++ s.moves

/-- Whether the step is taken: neither has the walker ended nor is the step cancelled. -/
def isTaken (s : Stepped) : Bool := !s.walker.state.isTerminal && !s.cancelled

/-- **What a step that is taken does to the queue**: its bodies change it by their calls,
then entries leave it from the front. -/
structure Advances (s : Stepped) : Prop where
  queue : s.worked.walker.queue = replay s.calls s.walker.queue
  position : s.worked.walker.position = s.walker.position
  flows : s.worked.Flows s.skips s.result

variable {s : Stepped}

/-- What a step tells from its start on, it has told. -/
theorem skips_eq (here : Fields) {skips : List (Handle × Skip)}
    (h : (⟨s.engine, s.walker, here⟩ : Visit).Tells skips s.result.1) : s.skips = skips := by
  obtain ⟨ss, hss, hskips⟩ := h.signals
  unfold Stepped.skips
  rw [hss, ← hskips, ← Array.length_toList, List.drop_left]

/-- **A step that is taken** only takes entries from the front of the queue its bodies
have left. -/
theorem advances (ht : s.isTaken = true) : s.Advances := by
  obtain ⟨e, cancelled, w⟩ := s
  simp only [isTaken, Bool.and_eq_true, Bool.not_eq_true'] at ht
  obtain ⟨ha, rfl⟩ := ht
  have htold : ∀ here, (⟨e, w, here⟩ : Visit).Tells [] (e.worked w) →
      ∀ {skips}, (e.worked w).Flows skips (e.stepWalker false w) →
        (e.worked w).Flows (Stepped.skips ⟨e, false, w⟩) (e.stepWalker false w) := by
    intro here hw skips hf
    have hskips := skips_eq (s := ⟨e, false, w⟩) here (hw.trans hf.tells)
    rw [List.nil_append] at hskips
    rwa [← hskips] at hf
  -- on a position that is gone no body is run, and the walker ends there
  cases hi : e.store.instanceAt w.position with
  | ok inst =>
    have hworked := worked_accrues Visit.accrues_queueCalls ha hi
    -- arriving tells of no skip either
    have harrived : (⟨e, w, .empty⟩ : Visit).Tells [] (e.start w inst) := by
      have hactive : (⟨e, w, .empty⟩ : Visit).Tells [] (e.arrive w inst) :=
        Visit.Tells.of_signals rfl rfl
      exact (hactive.trans (Visit.logged_tells _ _)).trans
        (Visit.observed_tells_none _ _ (m := .visit) rfl)
    obtain ⟨invoked, cause, hclose⟩ := stepWalker_eq_close ha hi
    obtain ⟨skips, hf⟩ := Visit.close_flows (e.worked w) invoked cause
    rw [← hclose] at hf
    exact ⟨hworked.queue, hworked.position, htold _ (harrived.trans hworked.toTells) hf⟩
  | error err =>
    have hcalls : Stepped.calls ⟨e, false, w⟩ = [] := by
      unfold Stepped.calls stepNotes
      rw [settled?_eq_none ha, hi]
      rfl
    have hworked : (⟨e, w, .empty⟩ : Visit).Queues [] (e.worked w) := by
      unfold Engine.worked
      rw [hi]
      exact Visit.queues_of_eq rfl rfl rfl rfl
    have hf := Visit.finish_flows (e.worked w) .failed (by decide) 0
      (some (.store err))
    rw [← stepWalker_eq_finish ha hi] at hf
    refine ⟨?_, hworked.position, htold _ hworked.toTells hf⟩
    rw [hcalls]
    exact hworked.queue

/-- A step that is not taken leaves the queue alone. -/
theorem rests (ht : s.isTaken = false) :
    s.calls = [] ∧ s.exits = [] ∧ s.result.1.walker.queue = s.walker.queue := by
  obtain ⟨e, cancelled, w⟩ := s
  have hr : w.state.isTerminal = true ∨ cancelled = true := by
    simp only [isTaken] at ht
    cases hc : w.state.isTerminal
    · rw [hc] at ht
      exact Or.inr (by simpa using ht)
    · exact Or.inl rfl
  have hrest : (Stepped.result ⟨e, cancelled, w⟩).1 = ⟨e, w, .empty⟩ := (stepWalker_rests hr).1
  have hskips : Stepped.skips ⟨e, cancelled, w⟩ = [] :=
    skips_eq .empty (by rw [hrest]; exact Visit.Tells.refl _)
  have hmoves : Stepped.moves ⟨e, cancelled, w⟩ = [] :=
    if_neg (stepWalker_rests_kind hr)
  refine ⟨stepNotes_rests hr, ?_, by rw [hrest]⟩
  unfold Stepped.exits
  rw [hskips, hmoves]
  rfl

/-- **Nothing else happens to the queue** in a step. -/
theorem flow (s : Stepped) :
    replay s.calls s.walker.queue = s.exits ++ s.result.1.walker.queue := by
  -- the queue that the bodies have left is cut where the step ends
  cases ht : s.isTaken with
  | false =>
    obtain ⟨hcalls, hexits, hq⟩ := rests ht
    rw [hcalls, hexits, hq]
    rfl
  | true =>
    have ha := advances ht
    rw [← ha.queue]
    unfold Stepped.exits Stepped.moves
    by_cases hm : s.result.2.kind = .moved
    · rw [if_pos hm, (ha.flows.moved hm).1]
      simp
    · rw [if_neg hm, List.append_nil]
      by_cases hc : s.result.2.kind = .completed
      · obtain ⟨hq, hnil, -⟩ := ha.flows.completed hc
        rw [hq, hnil, List.append_nil]
      · obtain ⟨hskips, hq, -⟩ := ha.flows.stopped hm hc
        rw [hskips, hq]
        rfl

end Stepped

/-- The step of walker `i` that a command is. -/
def stepped (e : Engine) (i : Nat) : Command → List Stepped
  | .step cancelled j => if j = i then (e.walkers[i]?).toList.map (⟨e, cancelled, ·⟩) else []
  | _ => []

/-- The steps of walker `i` in a run. -/
def stepsOf (i : Nat) : Engine → List Command → List Stepped
  | _, [] => []
  | e, c :: cs => e.stepped i c ++ stepsOf i (e.act c) cs

/-- The queue of walker `i`, empty as long as there is no such walker. -/
def queueOf (e : Engine) (i : Nat) : List Handle := ((e.walkers[i]?).map (·.queue)).getD []

/-- A walker starts with nothing in its queue. -/
theorem spawn_queue {e' : Engine} {a : Architype} {start : Handle} {args : List (String × Value)}
    (hs : e.spawn a start args = .ok (e', w)) : w.queue = [] := by
  obtain ⟨fields, s, -, -, rfl, -⟩ := spawn_eq_ok hs
  rfl

/-- A new walker has an empty queue, and other walkers keep theirs. -/
theorem act_spawn_queueOf (e : Engine) (i : Nat) (a : Architype) (start : Handle)
    (args : List (String × Value)) : (e.act (.spawn a start args)).queueOf i = e.queueOf i := by
  unfold act queueOf
  simp only
  cases hs : e.spawn a start args with
  | error f => rfl
  | ok r =>
    obtain ⟨e', w⟩ := r
    obtain ⟨-, -, -, hws, -⟩ := spawn_eq hs
    simp only [hws]
    -- walker `i` was there before, is the new one, or is still to come
    rcases Nat.lt_trichotomy i e.walkers.length with hi | rfl | hi
    · rw [List.getElem?_append_left hi]
    · rw [List.getElem?_concat_length, List.getElem?_eq_none (Nat.le_refl _), Option.map_some,
        spawn_queue hs]
      rfl
    · have hlen : (e.walkers ++ [w]).length ≤ i := by
        rw [List.length_append, List.length_singleton]
        omega
      rw [List.getElem?_eq_none hlen, List.getElem?_eq_none (Nat.le_of_lt hi)]

/-- A command conserves the queue of every walker. -/
theorem act_conserves (e : Engine) (i : Nat) (c : Command) :
    Conserves ((e.stepped i c).flatMap Stepped.calls) (e.queueOf i)
      ((e.stepped i c).flatMap Stepped.exits) ((e.act c).queueOf i) := by
  refine Conserves.of_replay ?_
  cases c with
  | spawn a start args => exact (act_spawn_queueOf e i a start args).symm
  | step cancelled j =>
    unfold stepped queueOf
    simp only [act_step_walkers]
    by_cases hij : j = i
    · rw [if_pos hij, if_pos hij]
      cases e.walkers[i]? with
      | none => rfl
      | some w =>
        have hflow := Stepped.flow ⟨e, cancelled, w⟩
        simpa [Stepped.result] using hflow
    · rw [if_neg hij, if_neg hij]
      rfl
  | edit ed => rfl

/-- **A run conserves the queue** of every walker. -/
theorem acts_conserves (i : Nat) (cs : List Command) :
    ∀ e : Engine, Conserves ((stepsOf i e cs).flatMap Stepped.calls) (e.queueOf i)
      ((stepsOf i e cs).flatMap Stepped.exits) ((e.acts cs).queueOf i) := by
  induction cs with
  | nil => exact fun e => Conserves.of_replay rfl
  | cons c cs ih =>
    intro e
    unfold stepsOf
    rw [List.flatMap_append, List.flatMap_append]
    exact (act_conserves e i c).trans (ih (e.act c))

/-- **No entry of a queue is lost or doubled**, in every state of every run from a new
engine, whatever the bodies do. What was put into the queue of a walker is what it has moved
to, what it told to have skipped, and its queue; if no call put targets in front, it left in
the order in which it came. Each step that is taken goes on from the queue its bodies left, to
the first entry that is live and not ignored; and a call puts its targets into the queue if
all are live, and nothing if one is gone. -/
theorem conserved_of_run (registry : Registry) (globals : Option GlobalTable)
    (haltOnError : Bool) (surroundings : Surroundings) (cs : List Command) (i : Nat) (w : Walker)
    (hw : ((new registry globals haltOnError surroundings).acts cs).walkers[i]? = some w) :
    let steps := stepsOf i (new registry globals haltOnError surroundings) cs
    let calls := steps.flatMap Stepped.calls
    (enqueued calls).Perm
        (steps.flatMap Stepped.moves ++ (steps.flatMap Stepped.skips).map Prod.fst ++ w.queue) ∧
      ((∀ c ∈ calls, c.first = false) →
        enqueued calls = steps.flatMap Stepped.exits ++ w.queue) ∧
      (∀ s ∈ steps, s.isTaken = true → s.Advances) ∧
      ∀ (v : Visit) (o : Occasion) (side : Side) (first : Bool) (targets : List Handle),
        ((∀ t ∈ targets, v.engine.store.contains t = true) →
          (v.answer o side (.visit first targets)).1 =
              { v with walker := v.walker.enqueue first targets } ∧
            Visit.queueCalls o side v (.visit first targets) = [⟨first, targets⟩]) ∧
        ((∃ t ∈ targets, v.engine.store.contains t = false) →
          (v.answer o side (.visit first targets)).1 = v ∧
            Visit.queueCalls o side v (.visit first targets) = []) := by
  intro steps calls
  have hc := acts_conserves i cs (new registry globals haltOnError surroundings)
  have hq : ((new registry globals haltOnError surroundings).acts cs).queueOf i = w.queue := by
    unfold queueOf
    rw [hw]
    rfl
  rw [hq] at hc
  refine ⟨?_, hc.order, fun s _ => Stepped.advances, fun v o side first targets =>
    ⟨Visit.answer_visit_live o side v first targets,
      Visit.answer_visit_gone o side v first targets⟩⟩
  -- the entries that were skipped and those moved to, each step's one after the other
  have hexits : (steps.flatMap Stepped.exits).Perm
      (steps.flatMap Stepped.moves ++ (steps.flatMap Stepped.skips).map Prod.fst) := by
    have hsplit := List.flatMap_append_perm steps (fun s => s.skips.map Prod.fst) Stepped.moves
    rw [← List.map_flatMap] at hsplit
    exact hsplit.symm.trans List.perm_append_comm
  exact hc.perm.trans (hexits.append_right w.queue)

/-- A walker puts two nodes at the end of its queue and one in front; of the two it ignores
the one and deletes the other. -/
def wander : List Command :=
  let node := Architype.new "m" ⟨.node, "N"⟩
  let choose : Ability :=
    { name := "choose", signature := ⟨[], .entry, []⟩, isAbstract := false,
      bound := some (⟨.native, fun o => do
        if o.position = .node 0 1 then
          Program.visit false [.node 1 1, .node 2 1]
          Program.visit true [.node 3 1]
          Program.ignore [.node 1 1]
          Program.delete (.node 2 1)⟩, "m"),
      declModule := "m", order := 0, owner := ⟨.walker, "W"⟩ }
  let walker := { Architype.new "m" ⟨.walker, "W"⟩ with linkedAbilities := [choose] }
  List.replicate 4 (.edit (.createNode node [])) ++
    [.spawn walker (.node 0 1) [], .step false 0, .step false 0]

theorem conserved_wander :
    let steps := stepsOf 0 (new .empty none false default) wander
    let calls := steps.flatMap Stepped.calls
    steps.flatMap Stepped.exits = [.node 3 1, .node 1 1, .node 2 1] ∧
    steps.flatMap Stepped.skips = [(.node 1 1, .ignored), (.node 2 1, .deleted)] ∧
    ∃ w, ((new .empty none false default).acts wander).walkers[0]? = some w ∧
      (enqueued calls).Perm
        (steps.flatMap Stepped.moves ++ (steps.flatMap Stepped.skips).map Prod.fst ++ w.queue) ∧
      ((∀ c ∈ calls, c.first = false) →
        enqueued calls = steps.flatMap Stepped.exits ++ w.queue) ∧
      (∀ s ∈ steps, s.isTaken = true → s.Advances) ∧
      ∀ (v : Visit) (o : Occasion) (side : Side) (first : Bool) (targets : List Handle),
        ((∀ t ∈ targets, v.engine.store.contains t = true) →
          (v.answer o side (.visit first targets)).1 =
              { v with walker := v.walker.enqueue first targets } ∧
            Visit.queueCalls o side v (.visit first targets) = [⟨first, targets⟩]) ∧
        ((∃ t ∈ targets, v.engine.store.contains t = false) →
          (v.answer o side (.visit first targets)).1 = v ∧
            Visit.queueCalls o side v (.visit first targets) = []) := by
  refine ⟨by decide +kernel, by decide +kernel, _, rfl, ?_⟩
  exact conserved_of_run .empty none false default wander 0 _ rfl

end Engine

end GraphWalk
