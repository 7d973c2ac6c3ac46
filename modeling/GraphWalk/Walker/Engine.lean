import GraphWalk.Globals
import GraphWalk.Walker.Basic

/-!
# The engine

The engine holds the graph, the registry and all walkers, and answers what
ability bodies ask. Everything it tells the outside is collected in order as
signals.
-/

namespace GraphWalk

/-- What lies outside the graph: process variables, the answers of the web, and
the names for new walkers. -/
structure Surroundings where
  environment : List (String × String)
  /-- What a method and an address lead to. -/
  web : String → String → Except WebFailure WebReply
  walkerId : Nat → String

instance : Inhabited Surroundings :=
  ⟨⟨[], fun _ _ => .error (.transport "no route"), fun n => "w" ++ toString n⟩⟩

structure Engine where
  store : Store
  registry : Registry
  /-- The global variables, if bodies can use any. -/
  globals : Option GlobalTable
  /-- Whether a walker stops at its first fault. -/
  haltOnError : Bool
  table : Dispatch.Table
  walkers : List Walker
  /-- The number of walkers named so far. -/
  named : Nat
  signals : Array Signal
  surroundings : Surroundings
deriving Inhabited

/-- A walker at work on a position. It holds on to the fields of the instance it
stands on, even if that is deleted meanwhile. -/
structure Visit where
  engine : Engine
  walker : Walker
  here : Fields

namespace Engine

def emit (e : Engine) (s : Signal) : Engine := { e with signals := e.signals.push s }

def logged (e : Engine) (r : LogRecord) : Engine := e.emit (.log r)

/-- Tells what happened to a walker at a position. -/
def observed (e : Engine) (w : Walker) (position : Handle) (m : Moment) : Engine :=
  let arch := if position.isNil then "" else
    ((e.store.instance? position).map (·.arch.name)).getD ""
  e.emit (.trace ⟨w.id, w.arch.name, position, arch, m⟩)

/-- Puts a new walker on a live instance. -/
def spawn (e : Engine) (a : Architype) (start : Handle) (args : List (String × Value)) :
    Except Fault (Engine × Walker) :=
  if a.kind ≠ .walker then .error (.notWalker a.key)
  else match Fields.new a.effectiveFields args with
    | .error err => .error (.within ("spawning " ++ a.key.text) (.field err))
    | .ok fields => match e.store.pin start with
      | .error err =>
        .error (.within ("spawning " ++ a.key.text ++ " at " ++ start.text) (.store err))
      | .ok store =>
        let w : Walker :=
          { id := e.surroundings.walkerId e.named, arch := a, fields, args := .ofAttrs args,
            state := .ready, position := start, queue := [], ignored := [], reports := [],
            faults := [], steps := 0, isDisengaged := false }
        let e' := { e with store, walkers := e.walkers ++ [w], named := e.named + 1 }
        let e' := e'.logged ⟨.debug, "Walker spawned.", [("walker", .text w.id),
          ("arch", .text a.name), ("start", .text start.text)]⟩
        .ok (e'.observed w start .spawn, w)

end Engine

namespace Visit

def observed (v : Visit) (position : Handle) (m : Moment) : Visit :=
  { v with engine := v.engine.observed v.walker position m }

def logged (v : Visit) (r : LogRecord) : Visit :=
  { v with engine := v.engine.logged (r.tagged (Observation.tags v.walker.id v.walker.arch.name)) }

def withStore (v : Visit) (s : Store) : Visit := { v with engine := { v.engine with store := s } }

/-- Whether a target is the walker; otherwise it is the position. -/
def onWalker (side : Side) : Target → Bool
  | .here => false
  | .visitor => true
  | .self => side == .walker

/-- The fields of a target. -/
def fieldsOf (v : Visit) (side : Side) (t : Target) : Fields :=
  if onWalker side t then v.walker.fields else v.here

/-- Replaces the fields of a target. -/
def withFields (v : Visit) (o : Occasion) (side : Side) (t : Target) (f : Fields) : Visit :=
  if onWalker side t then { v with walker := { v.walker with fields := f } }
  else { v.withStore (v.engine.store.setFields o.position f) with here := f }

/-- Creates an instance from an architype that has to be looked up. -/
def createdBy (v : Visit) (key : ArchKey)
    (create : Architype → Except StoreError (Store × Handle)) : Visit × Except Fault Handle :=
  match v.engine.registry.lookup key with
  | .error e => (v, .error (.registry e))
  | .ok a => match create a with
    | .error e => (v, .error (.store e))
    | .ok (s, h) => (v.withStore s, .ok h)

/-- Answers a request of a body. -/
def answer (o : Occasion) (side : Side) (v : Visit) : (r : Request) → Visit × r.Response
  | .fields t => (v, v.fieldsOf side t)
  | .setField t name value =>
    match (v.fieldsOf side t).set name value with
    | .ok f => (v.withFields o side t f, .ok ())
    | .error e => (v, .error (.field e))
  | .hops f => (v, (v.engine.store.hops o.position f).mapError .store)
  | .visit first targets =>
    match targets.find? fun h => !v.engine.store.contains h with
    | some h => (v, .error (.deadTarget h))
    | none => ({ v with walker := v.walker.enqueue first targets }, .ok ())
  | .ignore targets =>
    ({ v with walker := { v.walker with ignored := targets ++ v.walker.ignored } }, ())
  | .disengage => ({ v with walker := { v.walker with isDisengaged := true } }, ())
  | .report value =>
    let w := { v.walker with reports := v.walker.reports ++ [value] }
    ({ v with walker := w }.observed o.position (.report o.path o.event value), ())
  | .createNode arch init =>
    v.createdBy ⟨.node, arch⟩ fun a =>
      (v.engine.store.createNode a init).map fun (s, n) => (s, n.id)
  | .connect arch source target init =>
    v.createdBy ⟨.edge, arch⟩ fun a =>
      (v.engine.store.createEdge a source target a.directed init).map fun (s, e) => (s, e.id)
  | .delete h =>
    match v.engine.store.delete h with
    | .ok s => (v.withStore s, .ok ())
    | .error e => (v, .error (.store e))
  | .global name =>
    match v.engine.globals with
    | none => (v, .error .noGlobals)
    | some t => (v, (t.get o.module name).mapError .global)
  | .setGlobal name value =>
    match v.engine.globals with
    | none => (v, .error .noGlobals)
    | some t => match t.set o.module name value with
      | .ok t' => ({ v with engine := { v.engine with globals := some t' } }, .ok ())
      | .error e => (v, .error (.global e))
  | .globals =>
    (v, match v.engine.globals with
      | none => []
      | some t => t.visible o.module)
  | .log r => (v.logged r, ())
  | .print text => ({ v with engine := v.engine.emit (.print text) }, ())
  | .environment => (v, v.engine.surroundings.environment)
  | .fetch method url => (v, v.engine.surroundings.web method url)

/-- Runs a program to its end, answering all it asks. -/
def run {α : Type} (o : Occasion) (side : Side) : Program α → Visit → Visit × Except Fault α
  | .done a, v => (v, .ok a)
  | .fail f, v => (v, .error f)
  | .crash m, v => (v, .error (.panicked m))
  | .ask r next, v =>
    let (v', reply) := v.answer o side r
    run o side (next reply) v'

end Visit

end GraphWalk
