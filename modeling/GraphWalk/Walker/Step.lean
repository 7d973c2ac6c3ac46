import GraphWalk.Walker.Engine

/-!
# Stepping

One step of a walker runs the entry abilities of its position, then the exit
abilities, and moves on to the next entry of the queue that is live and not
ignored. A disengaged walker ends at once. A body that fails ends the abilities
of the step; whether the walker then stops is a setting of the engine.
-/

namespace GraphWalk

inductive OutcomeKind where
  /-- The walker moved on. -/
  | moved
  | completed
  | disengaged
  /-- The walker stopped at a fault, or could not start the step. -/
  | failed
deriving Repr, DecidableEq, Inhabited

def OutcomeKind.text : OutcomeKind → String
  | .moved => "continue"
  | .completed => "completed"
  | .disengaged => "disengaged"
  | .failed => "failed"

structure StepOutcome where
  kind : OutcomeKind
  position : Handle
  /-- The number of bodies that returned without a fault. -/
  invocations : Nat
  fault : Option Fault
deriving Inhabited

/-- How a walker ends. -/
inductive Ending where
  | completed
  | disengaged
  | failed
deriving Repr, DecidableEq

namespace Ending

def state : Ending → WalkerState
  | .completed => .completed
  | .disengaged => .disengaged
  | .failed => .failed

def outcome : Ending → OutcomeKind
  | .completed => .completed
  | .disengaged => .disengaged
  | .failed => .failed

def moment (cause : Option Fault) : Ending → Moment
  | .completed => .complete cause
  | .disengaged => .disengage cause
  | .failed => .fail cause

end Ending

namespace Visit

/-- What the body of an invocation knows. -/
def occasion (v : Visit) (here : ArchKey) (event : Event) (inv : Invocation) : Occasion :=
  { event, path := inv.ability.path, module := inv.ability.defModule,
    self := match inv.side with
      | .walker => v.walker.arch.key
      | .position => here
    here, visitor := v.walker.arch.key, position := v.walker.position, args := v.walker.args }

/-- Runs one bound body. -/
def invoke (v : Visit) (here : ArchKey) (event : Event) (inv : Invocation) (body : Body) :
    Visit × Option Fault :=
  let o := v.occasion here event inv
  let (v', result) := (v.observed o.position (.ability o.path event inv.side)).run o inv.side
    (body.run o)
  match result with
  | .ok () => (v', none)
  | .error f => (v', some (.ability o.path event o.position f))

/-- Runs invocations in order until one fails or disengages the walker, and
counts those that did not fail. -/
def dispatch (here : ArchKey) (event : Event) : List Invocation → Visit → Visit × Nat × Option Fault
  | [], v => (v, 0, none)
  | inv :: rest, v => match inv.ability.bound with
    | none =>
      dispatch here event rest
        (v.logged ⟨.debug, "Skipping abstract ability.",
          [("ability", .text inv.ability.path.text)]⟩)
    | some (body, _) => match v.invoke here event inv body with
      | (v', some f) => (v', 0, some f)
      | (v', none) =>
        if v'.walker.isDisengaged then (v', 1, none)
        else
          let (v'', n, f) := dispatch here event rest v'
          (v'', n + 1, f)

/-- Moves to the first entry that is live and not ignored and tells whether there
was one; the entries before it are skipped. -/
def advance : List Handle → Visit → Visit × Bool
  | [], v => ({ v with walker := { v.walker with queue := [] } }, false)
  | h :: rest, v =>
    if v.walker.ignored.contains h then advance rest (v.observed h .skipIgnored)
    else match v.engine.store.pin h with
      | .error _ =>
        advance rest ((v.logged ⟨.debug, "Skipping deleted position.",
          [("position", .text h.text)]⟩).observed h .skipDeleted)
      | .ok s =>
        ({ v.withStore (s.unpin v.walker.position) with
          walker := { v.walker with position := h, queue := rest } }, true)

/-- Ends a walker: its pin is taken off and it never steps again. -/
def finish (v : Visit) (ending : Ending) (invoked : Nat) (cause : Option Fault) :
    Visit × StepOutcome :=
  let pos := v.walker.position
  let v := { v.withStore (v.engine.store.unpin pos) with
    walker := { v.walker with state := ending.state } }
  let v := v.logged ⟨.debug, "Walker finished.", [("state", .text ending.state.text),
    ("steps", .count v.walker.steps), ("reports", .count v.walker.reports.length)]⟩
  (v.observed pos (ending.moment cause), ⟨ending.outcome, pos, invoked, cause⟩)

/-- The last part of a step: on to the next position, or the end. -/
def conclude (v : Visit) (invoked : Nat) (cause : Option Fault) : Visit × StepOutcome :=
  let pos := v.walker.position
  match advance v.walker.queue v with
  | (v', true) => (v', ⟨.moved, pos, invoked, cause⟩)
  | (v', false) => v'.finish .completed invoked cause

/-- A body failed: the fault is kept, and the walker stops or goes on. -/
def afterFault (v : Visit) (event : Event) (invoked : Nat) (f : Fault) : Visit × StepOutcome :=
  let pos := v.walker.position
  let v := { v with walker := { v.walker with faults := v.walker.faults ++ [f] } }
  let v := v.observed pos (.error event f)
  if v.engine.haltOnError then v.finish .failed invoked (some f)
  else
    (v.logged ⟨.warn, "Ability failed, continuing with queue.",
      [("position", .text pos.text), ("error", .text f.message)]⟩).conclude invoked (some f)

/-- Runs the phases of a step that are left. -/
def phases (here : Architype) : List Event → Visit → Nat → Visit × StepOutcome
  | [], v, invoked => v.conclude invoked none
  | event :: rest, v, invoked =>
    let (table, invs) :=
      v.engine.table.lookup v.engine.registry.epoch v.walker.arch here event
    let v := { v with engine := { v.engine with table } }
    let (v', n, cause) := dispatch here.key event invs v
    let invoked := invoked + n
    if v'.walker.isDisengaged then v'.finish .disengaged invoked cause
    else match cause with
      | some f => v'.afterFault event invoked f
      | none => phases here rest v' invoked

end Visit

namespace Engine

/-- What a walker that has ended answers to every further step. -/
def settled? (w : Walker) : Option StepOutcome :=
  match w.state with
  | .completed => some ⟨.completed, w.position, 0, none⟩
  | .disengaged => some ⟨.disengaged, w.position, 0, none⟩
  | .failed => some ⟨.failed, w.position, 0, w.faults.getLast?⟩
  | .ready | .active => none

/-- One step of a walker. With `cancelled` nothing is done. -/
def stepWalker (e : Engine) (cancelled : Bool) (w : Walker) : Visit × StepOutcome :=
  match settled? w with
  | some outcome => (⟨e, w, .empty⟩, outcome)
  | none =>
    if cancelled then (⟨e, w, .empty⟩, ⟨.failed, w.position, 0, some .canceled⟩)
    else
      let v : Visit := ⟨e, { w with state := .active, steps := w.steps + 1 }, .empty⟩
      match e.store.instanceAt w.position with
      | .error err =>
        let f : Fault := .store err
        { v with walker := { v.walker with faults := v.walker.faults ++ [f] } }.finish .failed 0
          (some f)
      | .ok inst =>
        let v := { v with here := inst.fields }
        let v := v.logged ⟨.debug, "Visiting position.", [("position", .text w.position.text),
          ("arch", .text inst.arch.name)]⟩
        (v.observed w.position .visit).phases inst.arch [.entry, .exit] 0

/-- One step of the walker with the given number. -/
def step (e : Engine) (cancelled : Bool) (i : Nat) : Option (Engine × StepOutcome) :=
  (e.walkers[i]?).map fun w =>
    let (v, outcome) := e.stepWalker cancelled w
    ({ v.engine with walkers := v.engine.walkers.set i v.walker }, outcome)

/-- The outcomes of at most `limit` steps of a walker, up to the first after which
it does not move on. -/
def stepMany (cancelled : Bool) (i : Nat) : Nat → Engine → Engine × List StepOutcome
  | 0, e => (e, [])
  | limit + 1, e => match e.step cancelled i with
    | none => (e, [])
    | some (e', outcome) =>
      if outcome.kind = .moved then
        let (e'', os) := stepMany cancelled i limit e'
        (e'', outcome :: os)
      else (e', [outcome])

/-- Runs a walker to its end. -/
def run (e : Engine) (fuel : Nat) (cancelled : Bool) (i : Nat) : Engine × Option Fault :=
  let (e', outcomes) := stepMany cancelled i fuel e
  (e', Fault.join? (outcomes.filterMap (·.fault)))

/-- Runs walkers one after the other. If faults halt the engine, the first one
cancels the walkers that are left. -/
def runEach (fuel : Nat) : Bool → List Nat → Engine → Engine × List Fault
  | _, [], e => (e, [])
  | cancelled, i :: rest, e =>
    let (e', f) := e.run fuel cancelled i
    let id := ((e.walkers[i]?).map (·.id)).getD ""
    let fs := (f.map fun f => Fault.within ("walker " ++ id) f).toList
    let (e'', fs') := runEach fuel (cancelled || (e.haltOnError && !fs.isEmpty)) rest e'
    (e'', fs ++ fs')

/-- Runs several walkers on a number of workers. -/
def runAll (e : Engine) (fuel : Nat) (cancelled : Bool) (workers : Nat) (ws : List Nat) :
    Engine × Option Fault :=
  let e := e.logged ⟨.debug, "Running walkers.", [("walkers", .count ws.length),
    ("workers", .count (if workers = 0 then 1 else workers))]⟩
  let (e', fs) := runEach fuel cancelled ws e
  (e', if e.haltOnError then fs.head? else Fault.join? fs)

end Engine

end GraphWalk
