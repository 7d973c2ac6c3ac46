import GraphWalk.Proofs.Walker.Known

/-!
# The turns of a step

A step runs bodies one after the other, each in a turn (`Turn`). `Runs` is the rule of it,
for the abilities that are due: each body finds what the one before it left, and after a
turn that is the last one (`Turn.isLast`), because its body failed or disengaged the
walker, no body runs. `dispatch_runs` and `phases_runs` show that the phases of a step
follow the rule, and that what comes after the bodies depends on how they ended only
(`Visit.close`).
-/

namespace GraphWalk

/-- A body that was run, with the visits before and after it. -/
structure Turn where
  event : Event
  invocation : Invocation
  body : Body
  before : Visit
  after : Visit
  /-- How the body failed, if it returned a fault or broke down. -/
  fault : Option Fault

namespace Turn

variable {ts ts' : List Turn}

/-- What the body was run for. -/
def due (t : Turn) : Event × Invocation := (t.event, t.invocation)

/-- Whether no body runs after it: it has failed, or the walker is disengaged. -/
def isLast (t : Turn) : Bool := t.fault.isSome || t.after.walker.isDisengaged

def announcement (t : Turn) : Path × Event × Side × Handle :=
  (t.invocation.ability.path, t.event, t.invocation.side, t.before.walker.position)

/-- The turn is what came of running the body that is bound to its ability. -/
structure Took (here : ArchKey) (t : Turn) : Prop where
  bound : ∃ module, t.invocation.ability.bound = some (t.body, module)
  run : t.before.invoke here t.event t.invocation t.body = (t.after, t.fault)

/-- The number of bodies that did not fail. -/
def succeeded (ts : List Turn) : Nat := ts.countP (·.fault.isNone)

/-- The first fault, with the event it came up on. -/
def cause (ts : List Turn) : Option (Event × Fault) :=
  ts.findSome? fun t => t.fault.map (t.event, ·)

theorem succeeded_append : succeeded (ts ++ ts') = succeeded ts + succeeded ts' :=
  List.countP_append

theorem cause_append : cause (ts ++ ts') = (cause ts).or (cause ts') := List.findSome?_append

theorem cause_eq_none : cause ts = none ↔ ∀ t ∈ ts, t.fault = none := by
  simp [cause, List.findSome?_eq_none_iff]

theorem isLast_eq_false {t : Turn} :
    t.isLast = false ↔ t.fault = none ∧ t.after.walker.isDisengaged = false := by
  simp [isLast]

end Turn

namespace Visit

variable {v v' v'' : Visit} {here : ArchKey} {ts ts' : List Turn}
  {dues dues' : List (Event × Invocation)}

/-- `v'` is `v` but for log records and what the dispatch table remembers. -/
structure Follows (v v' : Visit) : Prop where
  walker : v'.walker = v.walker
  here : v'.here = v.here
  engine : v'.engine =
    { v.engine with table := v'.engine.table, signals := v'.engine.signals }
  announced : v'.announced = v.announced

theorem Follows.refl (v : Visit) : v.Follows v := ⟨rfl, rfl, rfl, rfl⟩

theorem Follows.trans (h : v.Follows v') (h' : v'.Follows v'') : v.Follows v'' := by
  refine ⟨h'.walker.trans h.walker, h'.here.trans h.here, ?_, h'.announced.trans h.announced⟩
  rw [h'.engine, h.engine]

theorem emit_follows (v : Visit) {s : Signal} (hs : s.ability? = none) :
    v.Follows { v with engine := v.engine.emit s } :=
  ⟨rfl, rfl, rfl, (emit_quiet v hs).announced⟩

theorem logged_follows (v : Visit) (r : LogRecord) : v.Follows (v.logged r) := emit_follows v rfl

/-- **The rule of a step.** From a visit bodies are run for what is due, in order, until
all of them were run or a turn is the last one. -/
inductive Runs (here : ArchKey) : List (Event × Invocation) → Visit → List Turn → Visit → Prop
  | done {v v' : Visit} (h : v.Follows v') : Runs here [] v [] v'
  | last {dues : List (Event × Invocation)} {v v' : Visit} (t : Turn) (h : v.Follows t.before)
      (took : t.Took here) (hl : t.isLast = true) (h' : t.after.Follows v') :
      Runs here (t.due :: dues) v [t] v'
  | next {dues : List (Event × Invocation)} {v v' : Visit} {ts : List Turn} (t : Turn)
      (h : v.Follows t.before) (took : t.Took here) (hl : t.isLast = false)
      (hr : Runs here dues t.after ts v') : Runs here (t.due :: dues) v (t :: ts) v'

theorem Runs.of_follows (h : v.Follows v') (hr : Runs here dues v' ts v'') :
    Runs here dues v ts v'' := by
  cases hr with
  | done h' => exact .done (h.trans h')
  | last t h' took hl h'' => exact .last t (h.trans h') took hl h''
  | next t h' took hl hr => exact .next t (h.trans h') took hl hr

/-- A run without a last turn can go on. -/
theorem Runs.append (hr : Runs here dues v ts v') (hn : ∀ t ∈ ts, t.isLast = false)
    (hr' : Runs here dues' v' ts' v'') : Runs here (dues ++ dues') v (ts ++ ts') v'' := by
  induction hr with
  | done h => exact hr'.of_follows h
  | last t h took hl h' =>
    rw [hn t List.mem_cons_self] at hl
    cases hl
  | next t h took hl hr ih =>
    exact .next t h took hl (ih (fun t' hm => hn t' (List.mem_cons_of_mem t hm)) hr')

/-- After a last turn it does not matter what else is due. -/
theorem Runs.stop (hr : Runs here dues v ts v') (hs : ∃ t ∈ ts, t.isLast = true) :
    Runs here (dues ++ dues') v ts v' := by
  induction hr with
  | done h => obtain ⟨t, hm, -⟩ := hs; cases hm
  | last t h took hl h' => exact .last t h took hl h'
  | next t h took hl hr ih =>
    refine .next t h took hl (ih ?_)
    obtain ⟨t', hm, hl'⟩ := hs
    rcases List.mem_cons.1 hm with rfl | hm
    · rw [hl] at hl'; cases hl'
    · exact ⟨t', hm, hl'⟩

/-! ## What the rule implies -/

/-- The visits of the turns are linked. -/
def Linked (here : ArchKey) : Visit → List Turn → Prop
  | _, [] => True
  | v, t :: ts => v.Follows t.before ∧ t.Took here ∧ Linked here t.after ts

/-- The visit that the bodies leave. -/
def leftBy (v : Visit) (ts : List Turn) : Visit := (ts.getLast?.map Turn.after).getD v

theorem Runs.linked (hr : Runs here dues v ts v') : Linked here v ts := by
  induction hr with
  | done h => trivial
  | last t h took hl h' => exact ⟨h, took, trivial⟩
  | next t h took hl hr ih => exact ⟨h, took, ih⟩

theorem Runs.leftBy (hr : Runs here dues v ts v') : (v.leftBy ts).Follows v' := by
  induction hr with
  | done h => exact h
  | last t h took hl h' => exact h'
  | @next dues v v' ts t h took hl hr ih =>
    cases ts with
    | nil => exact ih
    | cons t' ts =>
      unfold Visit.leftBy at ih ⊢
      rw [List.getLast?_cons_cons]
      exact ih

/-- **The bodies that are run** are the first ones of those that are due. -/
theorem Runs.prefix_due (hr : Runs here dues v ts v') : ts.map Turn.due <+: dues := by
  induction hr with
  | done h => exact List.prefix_rfl
  | last t h took hl h' => exact ⟨_, rfl⟩
  | next t h took hl hr ih => exact List.cons_prefix_cons.2 ⟨rfl, ih⟩

/-- They are all of them, unless the last turn stops the run. -/
theorem Runs.whole (hr : Runs here dues v ts v') :
    ts.map Turn.due = dues ∨ ∃ t, ts.getLast? = some t ∧ t.isLast = true := by
  induction hr with
  | done h => exact Or.inl rfl
  | last t h took hl h' => exact Or.inr ⟨t, rfl, hl⟩
  | @next dues v v' ts t h took hl hr ih =>
    rcases ih with ih | ⟨t', ht, hl'⟩
    · exact Or.inl (by rw [List.map_cons, ih])
    · refine Or.inr ⟨t', ?_, hl'⟩
      rw [List.getLast?_cons, ht]
      rfl

/-- No other turn stops it. -/
theorem Runs.isLast_dropLast (hr : Runs here dues v ts v') :
    ∀ t ∈ ts.dropLast, t.isLast = false := by
  induction hr with
  | done h => intro t hm; cases hm
  | last t h took hl h' => intro t hm; cases hm
  | @next dues v v' ts t h took hl hr ih =>
    intro t' hm
    cases ts with
    | nil => cases hm
    | cons u ts =>
      rw [List.dropLast_cons_cons, List.mem_cons] at hm
      rcases hm with rfl | hm
      · exact hl
      · exact ih t' hm

/-- The bodies are announced in order, and nothing else is. -/
theorem Runs.announced (hr : Runs here dues v ts v') :
    v'.announced = v.announced ++ ts.map Turn.announcement := by
  -- a body adds its announcement to what was announced before it
  have took_announced : ∀ {t : Turn} {v : Visit}, v.Follows t.before → t.Took here →
      t.after.announced = v.announced ++ [t.announcement] := by
    intro t v h took
    have := invoke_announced here t.event t.before t.invocation t.body
    rw [took.run] at this
    rw [this, h.announced]
    rfl
  induction hr with
  | done h => rw [h.announced, List.map_nil, List.append_nil]
  | last t h took hl h' => rw [h'.announced, took_announced h took, List.map_singleton]
  | next t h took hl hr ih =>
    rw [ih, took_announced h took, List.map_cons, List.append_assoc, List.singleton_append]

/-- The policy and the registry are those of the beginning. -/
theorem Runs.engine (hr : Runs here dues v ts v') :
    v'.engine.haltOnError = v.engine.haltOnError ∧ v'.engine.registry = v.engine.registry ∧
      v'.walker.arch = v.walker.arch := by
  have follows : ∀ {v v' : Visit}, v.Follows v' → v'.engine.haltOnError = v.engine.haltOnError ∧
      v'.engine.registry = v.engine.registry ∧ v'.walker.arch = v.walker.arch := fun h =>
    ⟨by rw [h.engine], by rw [h.engine], by rw [h.walker]⟩
  have took_engine : ∀ {t : Turn}, t.Took here → t.before.Keeps t.after := by
    intro t took
    have := invoke_keeps here t.event t.before t.invocation t.body
    rwa [took.run] at this
  induction hr with
  | done h => exact follows h
  | last t h took hl h' =>
    obtain ⟨hh, hr, ha⟩ := follows h
    obtain ⟨hh', hr', ha'⟩ := follows h'
    have hk := took_engine took
    exact ⟨hh'.trans (hk.haltOnError.trans hh), hr'.trans (hk.registry.trans hr),
      ha'.trans (hk.arch.trans ha)⟩
  | next t h took hl hr ih =>
    obtain ⟨hh, hr, ha⟩ := follows h
    have hk := took_engine took
    exact ⟨ih.1.trans (hk.haltOnError.trans hh), ih.2.1.trans (hk.registry.trans hr),
      ih.2.2.trans (hk.arch.trans ha)⟩

/-- In every turn the walker is where and what it was at first. -/
theorem Runs.fixed (hr : Runs here dues v ts v') : ∀ t ∈ ts,
    t.before.walker.position = v.walker.position ∧ t.before.walker.arch = v.walker.arch := by
  induction hr with
  | done h => intro t hm; cases hm
  | last t h took hl h' =>
    intro t' hm
    cases List.mem_singleton.1 hm
    rw [h.walker]
    exact ⟨rfl, rfl⟩
  | next t h took hl hr ih =>
    intro t' hm
    rcases List.mem_cons.1 hm with rfl | hm
    · rw [h.walker]
      exact ⟨rfl, rfl⟩
    · -- the turn before left the walker where and what it was
      have hstays := invoke_stays here t.event t.before t.invocation t.body
      have hkeeps := invoke_keeps here t.event t.before t.invocation t.body
      rw [took.run] at hstays hkeeps
      obtain ⟨hp, ha⟩ := ih t' hm
      rw [hp, ha, hstays.position, hkeeps.arch, h.walker]
      exact ⟨rfl, rfl⟩

/-- The walker is disengaged at the end if it is after some turn. -/
theorem Runs.isDisengaged (hr : Runs here dues v ts v') (hv : v.walker.isDisengaged = false) :
    v'.walker.isDisengaged = true ↔ ∃ t ∈ ts, t.after.walker.isDisengaged = true := by
  induction hr with
  | done h => simp [h.walker, hv]
  | last t h took hl h' => simp [h'.walker]
  | next t h took hl hr ih =>
    have ht := (Turn.isLast_eq_false.1 hl).2
    rw [ih ht]
    simp [ht]

/-! ## The phases -/

/-- The bound ones of the abilities that fire on an event. -/
def duesOf (event : Event) (invs : List Invocation) : List (Event × Invocation) :=
  (invs.filter (·.ability.isBound)).map (event, ·)

theorem duesOf_none {event : Event} {inv : Invocation} {rest : List Invocation}
    (h : inv.ability.bound = none) : duesOf event (inv :: rest) = duesOf event rest := by
  simp [duesOf, Ability.isBound, h]

theorem duesOf_some {event : Event} {inv : Invocation} {rest : List Invocation}
    {bound : Body × String} (h : inv.ability.bound = some bound) :
    duesOf event (inv :: rest) = (event, inv) :: duesOf event rest := by
  simp [duesOf, Ability.isBound, h]

/-- **A phase follows the rule.** -/
theorem dispatch_runs (here : ArchKey) (event : Event) (invs : List Invocation) :
    ∀ v : Visit, ∃ ts, Runs here (duesOf event invs) v ts (dispatch here event invs v).1 ∧
      (dispatch here event invs v).2.1 = Turn.succeeded ts ∧
      (dispatch here event invs v).2.2.map (event, ·) = Turn.cause ts := by
  induction invs with
  | nil => exact fun v => ⟨[], .done (.refl v), rfl, rfl⟩
  | cons inv rest ih =>
    intro v
    unfold dispatch
    cases hb : inv.ability.bound with
    | none =>
      obtain ⟨ts, hr, hn, hc⟩ := ih (v.logged ⟨.debug, "Skipping abstract ability.",
        [("ability", .text inv.ability.path.text)]⟩)
      rw [duesOf_none hb]
      exact ⟨ts, hr.of_follows (logged_follows v _), hn, hc⟩
    | some bound =>
      obtain ⟨body, module⟩ := bound
      rw [duesOf_some hb]
      simp only
      cases h : v.invoke here event inv body with
      | mk v' fault =>
        let t : Turn := ⟨event, inv, body, v, v', fault⟩
        have took : t.Took here := ⟨⟨module, hb⟩, h⟩
        cases fault with
        | some f =>
          have hl : t.isLast = true := rfl
          exact ⟨[t], .last t (.refl v) took hl (.refl v'), rfl, rfl⟩
        | none =>
          simp only
          by_cases hd : v'.walker.isDisengaged = true
          · -- the body that disengages the walker has not failed and is counted
            rw [if_pos hd]
            have hl : t.isLast = true := hd
            exact ⟨[t], .last t (.refl v) took hl (.refl v'), rfl, rfl⟩
          · rw [if_neg hd]
            rw [Bool.not_eq_true] at hd
            have hl : t.isLast = false := hd
            obtain ⟨ts, hr, hn, hc⟩ := ih v'
            refine ⟨t :: ts, .next t (.refl v) took hl hr, ?_, hc⟩
            show (dispatch here event rest v').2.1 + 1 = _
            rw [hn]
            exact (List.countP_cons_of_pos rfl).symm

/-- What comes after the bodies, of which `invoked` succeeded. -/
def close (v : Visit) (invoked : Nat) (cause : Option (Event × Fault)) : Visit × StepOutcome :=
  if v.walker.isDisengaged then v.finish .disengaged invoked (cause.map (·.2))
  else match cause with
    | some (event, f) => v.afterFault event invoked f
    | none => v.conclude invoked none

/-- **The phases follow the rule**, for what is due by the architypes of the walker and of
its position, and end by what the bodies leave. -/
theorem phases_runs {known : List Architype} (one : OneRecord known) {here : Architype}
    (hhere : here ∈ known) (events : List Event) :
    ∀ (v : Visit) (invoked : Nat), v.walker.isDisengaged = false → v.walker.arch ∈ known →
      v.engine.table.Faithful known →
      ∃ ts v', Runs here.key (events.flatMap fun ev =>
          duesOf ev (Dispatch.invocations v.walker.arch here ev)) v ts v' ∧
        phases here events v invoked =
          v'.close (invoked + Turn.succeeded ts) (Turn.cause ts) ∧
        v'.engine.table.Faithful known := by
  induction events with
  | nil =>
    intro v invoked hd _ ht
    refine ⟨[], v, .done (.refl v), ?_, ht⟩
    unfold phases close
    rw [hd]
    rfl
  | cons event rest ih =>
    intro v invoked hd harch ht
    obtain ⟨ht', hinvs⟩ := ht.lookup one harch hhere v.engine.registry.epoch event
    unfold phases
    cases hl : v.engine.table.lookup v.engine.registry.epoch v.walker.arch here event with
    | mk table invs =>
      rw [hl] at ht' hinvs
      simp only at ht' hinvs ⊢
      subst hinvs
      let u : Visit := { v with engine := { v.engine with table } }
      have hu : v.Follows u := ⟨rfl, rfl, rfl, rfl⟩
      obtain ⟨ts, hr, hn, hc⟩ := dispatch_runs here.key event
        (Dispatch.invocations v.walker.arch here event) u
      have hkeeps := dispatch_keeps here.key event
        (Dispatch.invocations v.walker.arch here event) u
      cases hdis : dispatch here.key event (Dispatch.invocations v.walker.arch here event) u with
      | mk v' r =>
        obtain ⟨n, cause⟩ := r
        rw [hdis] at hr hn hc hkeeps
        simp only at hr hn hc hkeeps
        have htable : v'.engine.table.Faithful known := by rw [hkeeps.table]; exact ht'
        have hr' := hr.of_follows hu
        rw [List.flatMap_cons]
        simp only
        have hany := hr'.isDisengaged hd
        by_cases hdis' : v'.walker.isDisengaged = true
        · obtain ⟨t, hm, ht⟩ := hany.1 hdis'
          refine ⟨ts, v', hr'.stop ⟨t, hm, by simp [Turn.isLast, ht]⟩, ?_, htable⟩
          unfold close
          rw [if_pos hdis', if_pos hdis', ← hc, ← hn, Option.map_map]
          cases cause <;> rfl
        · cases cause with
          | some f =>
            -- some turn has the fault, which makes it the last one
            have hlast : ∃ t ∈ ts, t.isLast = true := by
              by_contra hno
              have hnone : Turn.cause ts = none := Turn.cause_eq_none.2 fun t hm => by
                have hl : t.isLast = false := by
                  rw [Bool.eq_false_iff]
                  exact fun hl => hno ⟨t, hm, hl⟩
                exact (Turn.isLast_eq_false.1 hl).1
              rw [hnone] at hc
              cases hc
            refine ⟨ts, v', hr'.stop hlast, ?_, htable⟩
            unfold close
            rw [if_neg hdis', if_neg hdis', ← hc, ← hn]
            rfl
          | none =>
            have hgo : ∀ t ∈ ts, t.isLast = false := fun t hm => by
              rw [Turn.isLast_eq_false]
              refine ⟨Turn.cause_eq_none.1 hc.symm t hm, ?_⟩
              rw [Bool.eq_false_iff]
              exact fun ht => hdis' (hany.2 ⟨t, hm, ht⟩)
            rw [Bool.not_eq_true] at hdis'
            obtain ⟨ts', v'', hr'', hclose, ht''⟩ := ih v' (invoked + n) hdis'
              (by rw [hkeeps.arch]; exact harch) htable
            rw [hkeeps.arch] at hr''
            refine ⟨ts ++ ts', v'', hr'.append hgo hr'', ?_, ht''⟩
            rw [if_neg (by simp [hdis']), hclose, Turn.cause_append, ← hc, Turn.succeeded_append,
              hn, Nat.add_assoc]
            rfl

end Visit

end GraphWalk
