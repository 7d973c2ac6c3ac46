import GraphWalk.Time
import GraphWalk.Value.Literal
import GraphWalk.Value.Text
import GraphWalk.Walker.Trace

/-!
# Trace payloads

The JSON form of an observation, for those who watch from outside. What does not
apply is left out.
-/

namespace GraphWalk

/-- An observation as plain data. -/
structure TraceEvent where
  kind : String
  time : Option Instant
  walker : String
  walkerArch : String
  position : Handle
  positionArch : String
  event : Event
  ability : String
  side : String
  value : Option Value
  fault : Option String
  detail : String
deriving Inhabited

def Observation.event (o : Observation) (time : Option Instant) : TraceEvent :=
  { kind := o.moment.kind, time, walker := o.walker, walkerArch := o.walkerArch,
    position := o.position, positionArch := o.positionArch, event := o.moment.event,
    ability := o.moment.abilityText, side := o.moment.sideText, value := o.moment.value?,
    fault := o.moment.fault?.map (·.message), detail := o.moment.detail }

mutual

/-- A document with every number held to 53 bits; none if one is too large. -/
def Json.toDoubles? : Json → Option Json
  | .num s => do
    let n ← Number.read? s
    let d ← Number.Double.ofNumber? n
    return .num d.text
  | .arr items => (doublesItems? items).map .arr
  | .obj members => (doublesMembers? members).map .obj
  | j => some j

def doublesItems? : List Json → Option (List Json)
  | [] => some []
  | j :: js => do
    let j' ← j.toDoubles?
    let js' ← doublesItems? js
    return j' :: js'

def doublesMembers? : List (String × Json) → Option (List (String × Json))
  | [] => some []
  | (k, j) :: rest => do
    let j' ← j.toDoubles?
    let rest' ← doublesMembers? rest
    return (k, j') :: rest'

end

/-- The plain form of a reported value: null if something is unknown, its
constructor form if it has no JSON text, and the text itself if a number in it is
too large. -/
def Value.plain (v : Value) : Json :=
  if !v.isWhollyKnown then .null
  else match v.toJsonFor v.type with
    | .error _ => .str v.literal
    | .ok j => match j.toDoubles? with
      | some j' => j'
      | none => .str j.render

def TraceEvent.toJson (e : TraceEvent) : Json :=
  let text := fun (key s : String) => if s = "" then [] else [(key, Json.str s)]
  .obj (([("kind", .str e.kind)] : List (String × Json))
    ++ (match e.time with
      | some t => [("time", .str t.shortText)]
      | none => [] : List (String × Json))
    ++ ([("walker", .str e.walker)] : List (String × Json))
    ++ text "walker_arch" e.walkerArch
    ++ (if e.position.isNil then []
        else [("position", .str e.position.text)] : List (String × Json))
    ++ text "position_arch" e.positionArch
    ++ (if e.event = .none then [] else [("event", .str e.event.text)] : List (String × Json))
    ++ (if e.ability = "" then []
        else [("ability", .str e.ability), ("side", .str e.side)] : List (String × Json))
    ++ (if e.kind = "report" then [("value", (e.value.map Value.plain).getD .null)]
        else [] : List (String × Json))
    ++ (match e.fault with
      | some m => [("error", .str m)]
      | none => [] : List (String × Json))
    ++ text "detail" e.detail)

end GraphWalk
