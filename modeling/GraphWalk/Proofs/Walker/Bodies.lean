import GraphWalk.Proofs.Walker.Outcome

/-!
# What the bodies of a step ask for

`Visit.bodies` runs the bodies of the phases of a step, up to the first one that fails or
disengages the walker. What comes after them is left to `Visit.close`: `phases_eq_close`,
`stepWalker_eq_close`.

While bodies run, something may be noted of every request they make (`Note`). The notes of
a program, a phase and a step are listed in order (`programNotes`, `dispatchNotes`,
`bodiesNotes`, `stepNotes`). `Accrues note R` says that `R` holds of a single request with
its notes, of whatever else changes between requests, and adds up.

Main result: `Accrues.bodies`. **What adds up over requests holds of all bodies of a step
with their notes.**
-/

namespace GraphWalk

namespace Visit

/-- What is noted of a request, in the visit it is made in. -/
abbrev Note (β : Type) := Occasion → Side → Visit → Request → List β

section Notes

variable {β : Type} (note : Note β)

/-- The notes of a program that is run to its end. -/
def programNotes {α : Type} (o : Occasion) (side : Side) : Program α → Visit → List β
  | .ask r next, v =>
    note o side v r ++ programNotes o side (next (v.answer o side r).2) (v.answer o side r).1
  | _, _ => []

def invokeNotes (v : Visit) (here : ArchKey) (event : Event) (inv : Invocation) (body : Body) :
    List β :=
  let o := v.occasion here event inv
  programNotes note o inv.side (body.run o) (v.observed o.position (.ability o.path event inv.side))

/-- The notes of the bodies of a phase. -/
def dispatchNotes (here : ArchKey) (event : Event) : List Invocation → Visit → List β
  | [], _ => []
  | inv :: rest, v => match inv.ability.bound with
    | none =>
      dispatchNotes here event rest
        (v.logged ⟨.debug, "Skipping abstract ability.",
          [("ability", .text inv.ability.path.text)]⟩)
    | some (body, _) =>
      v.invokeNotes note here event inv body ++
        match v.invoke here event inv body with
        | (_, some _) => []
        | (v', none) => if v'.walker.isDisengaged then [] else dispatchNotes here event rest v'

/-- The notes of the bodies of the phases that are left. -/
def bodiesNotes (here : Architype) : List Event → Visit → List β
  | [], _ => []
  | event :: rest, v =>
    let (table, invs) :=
      v.engine.table.lookup v.engine.registry.epoch v.walker.arch here event
    let v := { v with engine := { v.engine with table } }
    dispatchNotes note here.key event invs v ++
      match dispatch here.key event invs v with
      | (_, _, some _) => []
      | (v', _, none) => if v'.walker.isDisengaged then [] else bodiesNotes here rest v'

end Notes

/-- Runs the bodies of the phases that are left, and counts those that did not fail. -/
def bodies (here : Architype) : List Event → Visit → Visit × Nat × Option (Event × Fault)
  | [], v => (v, 0, none)
  | event :: rest, v =>
    let (table, invs) :=
      v.engine.table.lookup v.engine.registry.epoch v.walker.arch here event
    match dispatch here.key event invs { v with engine := { v.engine with table } } with
    | (v', n, some f) => (v', n, some (event, f))
    | (v', n, none) =>
      if v'.walker.isDisengaged then (v', n, none)
      else
        let (v'', n', cause) := bodies here rest v'
        (v'', n + n', cause)

/-- **The phases of a step** are its bodies and what comes after them. -/
theorem phases_eq_close (here : Architype) (events : List Event) :
    ∀ (v : Visit) (invoked : Nat), (events = [] → v.walker.isDisengaged = false) →
      phases here events v invoked =
        (bodies here events v).1.close (invoked + (bodies here events v).2.1)
          (bodies here events v).2.2 := by
  induction events with
  | nil =>
    intro v invoked hd
    unfold phases bodies close
    rw [hd rfl]
    rfl
  | cons event rest ih =>
    intro v invoked _
    unfold phases bodies
    cases v.engine.table.lookup v.engine.registry.epoch v.walker.arch here event with
    | mk table invs =>
      simp only
      cases dispatch here.key event invs { v with engine := { v.engine with table } } with
      | mk v' r =>
        obtain ⟨n, cause⟩ := r
        by_cases hd : v'.walker.isDisengaged = true
        · -- the walker is disengaged, whether the last body failed or not
          cases cause <;> simp [close, hd]
        · cases cause with
          | some f => simp [close, hd]
          | none =>
            simp only [hd]
            rw [Bool.not_eq_true] at hd
            simpa [Nat.add_assoc] using ih v' (invoked + n) fun _ => hd

/-! ## What adds up -/

/-- `R` adds up over requests with their notes, and over what changes between them: what is
told of abilities and logged, and what the dispatch table remembers. -/
structure Accrues {β : Type} (note : Note β) (R : List β → Visit → Visit → Prop) : Prop where
  refl : ∀ v, R [] v v
  trans : ∀ {xs ys v v' v''}, R xs v v' → R ys v' v'' → R (xs ++ ys) v v''
  answer : ∀ o side v r, R (note o side v r) v (v.answer o side r).1
  announced : ∀ (v : Visit) position path event side,
    R [] v (v.observed position (.ability path event side))
  logged : ∀ (v : Visit) r, R [] v (v.logged r)
  table : ∀ (v : Visit) table, R [] v { v with engine := { v.engine with table } }

section Accrues

variable {β : Type} {note : Note β} {R : List β → Visit → Visit → Prop} {o : Occasion} {side : Side}

theorem Accrues.program {α : Type} (h : Accrues note R) (p : Program α) :
    ∀ v : Visit, R (programNotes note o side p v) v (v.run o side p).1 := by
  -- the next request depends on the answer to this one, so the visit varies
  induction p with
  | ask r next ih => exact fun v => h.trans (h.answer o side v r) (ih _ _)
  | _ => exact fun v => h.refl v

variable (here : ArchKey) (event : Event)

theorem Accrues.invoke (h : Accrues note R) (v : Visit) (inv : Invocation) (body : Body) :
    R (v.invokeNotes note here event inv body) v (v.invoke here event inv body).1 := by
  rw [invoke_fst]
  have htold := h.announced v v.walker.position inv.ability.path event inv.side
  exact h.trans htold (h.program _ _)

theorem Accrues.dispatch (h : Accrues note R) (invs : List Invocation) :
    ∀ v : Visit, R (dispatchNotes note here event invs v) v (dispatch here event invs v).1 := by
  induction invs with
  | nil => exact fun v => h.refl v
  | cons inv rest ih =>
    intro v
    unfold Visit.dispatch dispatchNotes
    cases inv.ability.bound with
    | none => exact h.trans (h.logged v _) (ih _)
    | some bound =>
      have hinvoke := h.invoke here event v inv bound.1
      simp only
      cases hi : v.invoke here event inv bound.1 with
      | mk v' fault =>
        rw [hi] at hinvoke
        cases fault with
        | some f => exact h.trans hinvoke (h.refl v')
        | none =>
          simp only
          -- a body that disengages the walker is the last one
          split
          · exact h.trans hinvoke (h.refl v')
          · exact h.trans hinvoke (ih v')

/-- **What adds up over requests** holds of the bodies of a step. -/
theorem Accrues.bodies (h : Accrues note R) (here : Architype) (events : List Event) :
    ∀ v : Visit, R (bodiesNotes note here events v) v (bodies here events v).1 := by
  induction events with
  | nil => exact fun v => h.refl v
  | cons event rest ih =>
    intro v
    unfold Visit.bodies bodiesNotes
    cases v.engine.table.lookup v.engine.registry.epoch v.walker.arch here event with
    | mk table invs =>
      let u : Visit := { v with engine := { v.engine with table } }
      have hphase : R (dispatchNotes note here.key event invs u) v
          (Visit.dispatch here.key event invs u).1 :=
        h.trans (h.table v table) (h.dispatch here.key event invs u)
      simp only
      cases hd : Visit.dispatch here.key event invs u with
      | mk v' r =>
        rw [hd] at hphase
        obtain ⟨n, cause⟩ := r
        cases cause with
        | some f => exact h.trans hphase (h.refl v')
        | none =>
          simp only
          split
          · exact h.trans hphase (h.refl v')
          · exact h.trans hphase (ih v')

end Accrues

end Visit

namespace Engine

variable {e : Engine} {w : Walker} {inst : Instance}

/-- The visit that the first body of a step finds. -/
def start (e : Engine) (w : Walker) (inst : Instance) : Visit :=
  ((e.arrive w inst).logged ⟨.debug, "Visiting position.", [("position", .text w.position.text),
    ("arch", .text inst.arch.name)]⟩).observed w.position .visit

/-- The visit that the bodies of a step leave. On a position that is gone none is run, and
the fault is noted. -/
def worked (e : Engine) (w : Walker) : Visit :=
  match e.store.instanceAt w.position with
  | .ok inst => (Visit.bodies inst.arch [.entry, .exit] (e.start w inst)).1
  | .error err =>
    ⟨e, { w with state := .active, steps := w.steps + 1, faults := w.faults ++ [.store err] },
      .empty⟩

/-- The notes of the bodies of a step. -/
def stepNotes {β : Type} (note : Visit.Note β) (e : Engine) (cancelled : Bool) (w : Walker) :
    List β :=
  match settled? w with
  | some _ => []
  | none =>
    if cancelled then []
    else match e.store.instanceAt w.position with
      | .ok inst => Visit.bodiesNotes note inst.arch [.entry, .exit] (e.start w inst)
      | .error _ => []

/-- A step that is not taken has no notes. -/
theorem stepNotes_rests {β : Type} {note : Visit.Note β} {cancelled : Bool}
    (h : w.state.isTerminal = true ∨ cancelled = true) : e.stepNotes note cancelled w = [] := by
  rw [← settled?_isSome] at h
  unfold stepNotes
  cases hs : settled? w with
  | some outcome => rfl
  | none =>
    rcases h with h | rfl
    · rw [hs] at h; cases h
    · rfl

/-- **A step that is taken** on a live position is its bodies and what comes after them. -/
theorem stepWalker_eq_close (ha : w.state.isTerminal = false)
    (hi : e.store.instanceAt w.position = .ok inst) :
    ∃ invoked cause, e.stepWalker false w = (e.worked w).close invoked cause := by
  refine ⟨0 + (Visit.bodies inst.arch [.entry, .exit] (e.start w inst)).2.1,
    (Visit.bodies inst.arch [.entry, .exit] (e.start w inst)).2.2, ?_⟩
  unfold stepWalker worked
  rw [settled?_eq_none ha, hi]
  exact Visit.phases_eq_close inst.arch [.entry, .exit] (e.start w inst) 0 fun h => by cases h

/-- On a position that is gone a step that is taken ends the walker. -/
theorem stepWalker_eq_finish (ha : w.state.isTerminal = false) {err : StoreError}
    (hi : e.store.instanceAt w.position = .error err) :
    e.stepWalker false w = (e.worked w).finish .failed 0 (some (.store err)) := by
  unfold stepWalker worked
  rw [settled?_eq_none ha, hi]
  rfl

/-- **What adds up over requests** holds of the bodies of a step that is taken. -/
theorem worked_accrues {β : Type} {note : Visit.Note β} {R : List β → Visit → Visit → Prop}
    (h : Visit.Accrues note R) (ha : w.state.isTerminal = false)
    (hi : e.store.instanceAt w.position = .ok inst) :
    R (e.stepNotes note false w) (e.start w inst) (e.worked w) := by
  unfold stepNotes worked
  rw [settled?_eq_none ha, hi]
  exact h.bodies inst.arch [.entry, .exit] _

end Engine

end GraphWalk
