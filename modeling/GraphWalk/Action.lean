import GraphWalk.Body

/-!
# Bodies as lists of actions

A list of actions is a body that does one thing after the other and stops at the
first fault.
-/

namespace GraphWalk

/-- A handle that an action names: a fixed one, or the position. -/
inductive Place where
  | fixed (h : Handle)
  | position
deriving Repr, DecidableEq, Inhabited

def Place.handle (o : Occasion) : Place → Handle
  | .fixed h => h
  | .position => o.position

inductive Action where
  | report (value : Value)
  /-- Reports a field. -/
  | reportField (target : Target) (name : String)
  | setField (target : Target) (name : String) (value : Value)
  /-- Reports all fields as an object. -/
  | reportFields (target : Target)
  | visit (first : Bool) (targets : List Place)
  /-- Visits the nodes, or the edges, of all hops. -/
  | visitHops (filter : HopFilter) (first viaEdges : Bool)
  | ignore (targets : List Place)
  | disengage
  /-- Creates a node and reports its handle. -/
  | create (arch : String) (init : List (String × Value))
  /-- Creates an edge and reports its handle. -/
  | connect (arch : String) (source target : Place) (init : List (String × Value))
  | delete (target : Place)
  | reportGlobal (name : String)
  | setGlobal (name : String) (value : Value)
  | reportGlobals
  /-- Reports what the body knows about the occasion. -/
  | reportOccasion
  | fail (message : String)
  | crash (message : String)
deriving Repr, Inhabited

def Occasion.object (o : Occasion) : Value :=
  .ofAttrs [("event", .text o.event.text), ("path", .text o.path.text),
    ("module", .text o.module), ("self", .text o.self.text), ("here", .text o.here.text),
    ("visitor", .text o.visitor.text), ("at", .text o.position.text), ("args", o.args)]

namespace Action

def program (o : Occasion) : Action → Program Unit
  | .report v => .report v
  | .reportField t name => do
    let f ← Program.fields t
    let v ← Program.ofExcept ((f.get name).mapError .field)
    .report v
  | .setField t name v => .setField t name v
  | .reportFields t => do
    let f ← Program.fields t
    .report f.object
  | .visit first targets => .visit first (targets.map (·.handle o))
  | .visitHops filter first viaEdges => do
    let hops ← Program.hops filter
    .visit first (hops.map fun h => if viaEdges then h.edge else h.node)
  | .ignore targets => .ignore (targets.map (·.handle o))
  | .disengage => .disengage
  | .create arch init => do
    let h ← Program.createNode arch init
    .report (.text h.text)
  | .connect arch source target init => do
    let h ← Program.connect arch (source.handle o) (target.handle o) init
    .report (.text h.text)
  | .delete target => .delete (target.handle o)
  | .reportGlobal name => do
    let v ← Program.global name
    .report v
  | .setGlobal name v => .setGlobal name v
  | .reportGlobals => do
    let gs ← Program.globals
    .report (.ofAttrs gs)
  | .reportOccasion => .report o.object
  | .fail message => .fail (.text message)
  | .crash message => .crash message

/-- Runs actions in order; one with a handle runs only at that position. -/
def programs (o : Occasion) : List (Option Handle × Action) → Program Unit
  | [] => .done ()
  | (at?, a) :: rest => do
    match at? with
    | some h => if h = o.position then a.program o else pure ()
    | none => a.program o
    programs o rest

/-- The body of a list of actions. -/
def body (actions : List (Option Handle × Action)) : Body := ⟨.native, fun o => programs o actions⟩

end Action

end GraphWalk
