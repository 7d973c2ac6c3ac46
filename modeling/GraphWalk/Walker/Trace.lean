import GraphWalk.Dispatch
import GraphWalk.Log

/-!
# Traces

What an observer of a walker is told. Every observation names the walker and a
position; the moment says what happened.
-/

namespace GraphWalk

/-- What happened to a walker. -/
inductive Moment where
  | spawn
  | visit
  | ability (path : Path) (event : Event) (side : Side)
  | report (path : Path) (event : Event) (value : Value)
  /-- A queue entry was passed over because it is ignored. -/
  | skipIgnored
  /-- A queue entry was passed over because it is gone. -/
  | skipDeleted
  | error (event : Event) (cause : Fault)
  | complete (cause : Option Fault)
  | disengage (cause : Option Fault)
  | fail (cause : Option Fault)
deriving Inhabited

namespace Moment

def kind : Moment → String
  | .spawn => "spawn"
  | .visit => "visit"
  | .ability .. => "ability"
  | .report .. => "report"
  | .skipIgnored | .skipDeleted => "skip"
  | .error .. => "error"
  | .complete _ => "complete"
  | .disengage _ => "disengage"
  | .fail _ => "fail"

def event : Moment → Event
  | .ability _ ev _ | .report _ ev _ | .error ev _ => ev
  | _ => .none

def abilityText : Moment → String
  | .ability path .. | .report path .. => path.text
  | _ => ""

def sideText : Moment → String
  | .ability _ _ side => side.text
  | _ => ""

def value? : Moment → Option Value
  | .report _ _ v => some v
  | _ => none

def fault? : Moment → Option Fault
  | .error _ f => some f
  | .complete f | .disengage f | .fail f => f
  | _ => none

def detail : Moment → String
  | .skipIgnored => "ignored"
  | .skipDeleted => "deleted"
  | _ => ""

end Moment

/-- One observation of a walker. -/
structure Observation where
  walker : String
  walkerArch : String
  position : Handle
  /-- The architype of the position, if it is live. -/
  positionArch : String
  moment : Moment
deriving Inhabited

namespace Observation

/-- The attributes that every record about a stepping walker carries. -/
def tags (walker arch : String) : List (String × LogValue) :=
  [("walker", .text walker), ("walker_arch", .text arch)]

/-- The tags in force when the observation was made: a walker is spawned from
outside, everything else happens in a step. -/
def context (o : Observation) : List (String × LogValue) :=
  match o.moment with
  | .spawn => []
  | _ => tags o.walker o.walkerArch

/-- The log record of an observation. -/
def logRecord (o : Observation) : LogRecord :=
  let ability := if o.moment.abilityText = "" then [] else
    [("ability", .text o.moment.abilityText), ("event", .text o.moment.event.text),
      ("side", .text o.moment.sideText)]
  let detail := if o.moment.detail = "" then [] else [("detail", .text o.moment.detail)]
  let about : List (String × LogValue) :=
    [("kind", .text o.moment.kind), ("walker", .text o.walker),
      ("position", .text o.position.text)] ++ ability ++ detail
  let record : LogRecord := match o.moment.fault? with
    | some f => ⟨.error, "Walker trace.", about ++ [("error", .text f.message)]⟩
    | none => ⟨.debug, "Walker trace.", about⟩
  record.tagged o.context

/-- The record of an observation that could not be passed on. -/
def lostRecord (o : Observation) (why : String) : LogRecord :=
  LogRecord.tagged o.context
    ⟨.warn, "Failed to emit trace event.", [("kind", .text o.moment.kind), ("error", .text why)]⟩

end Observation

/-- What a step gives to the outside, in order. -/
inductive Signal where
  | trace (o : Observation)
  | log (r : LogRecord)
  | print (text : String)
deriving Inhabited

/-- The abilities among observations, each with its position. -/
def abilityTexts (os : List Observation) : List String :=
  os.filterMap fun o => match o.moment with
    | .ability path .. => some (path.text ++ "@" ++ o.position.text)
    | _ => none

end GraphWalk
