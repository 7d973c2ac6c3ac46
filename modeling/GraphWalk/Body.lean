import GraphWalk.Architype.Fields
import GraphWalk.Log

/-!
# Ability bodies

A body is a program: it computes, asks for something, and goes on with the
answer (`Program`). What a body can ask is listed in `Request`; it has no other
way to act. Every program ends, because the tree of its questions is finite
along each branch.
-/

namespace GraphWalk

/-- Narrows a search for neighbours. An empty list of names matches every
architype, a name matches its subtypes too. -/
structure HopFilter where
  edge : List String
  node : List String
  direction : Direction
deriving Repr, DecidableEq, Inhabited

/-- A neighbour and the edge that leads to it. -/
structure Hop where
  edge : Handle
  node : Handle
deriving Repr, DecidableEq, Inhabited

/-- The instances a body can name. -/
inductive Target where
  | here
  | visitor
  | self
deriving Repr, DecidableEq, Inhabited

/-- What came back for a web request. -/
structure WebReply where
  code : Int
  status : String
  body : String
deriving Repr, DecidableEq, Inhabited

/-- Why there is no complete reply. -/
inductive WebFailure where
  | transport (why : String)
  | unreadable (status why : String)
deriving Repr, DecidableEq, Inhabited

/-- What a body can ask for. -/
inductive Request where
  | fields (target : Target)
  | setField (target : Target) (name : String) (value : Value)
  | hops (filter : HopFilter)
  | visit (first : Bool) (targets : List Handle)
  | ignore (targets : List Handle)
  | disengage
  | report (value : Value)
  | createNode (arch : String) (init : List (String × Value))
  | connect (arch : String) (source target : Handle) (init : List (String × Value))
  | delete (h : Handle)
  | global (name : String)
  | setGlobal (name : String) (value : Value)
  | globals
  | log (record : LogRecord)
  | print (text : String)
  | environment
  | fetch (method url : String)

/-- The type of the answer to a request. -/
def Request.Response : Request → Type
  | .fields _ => Fields
  | .setField .. => Except Fault Unit
  | .hops _ => Except Fault (List Hop)
  | .visit .. => Except Fault Unit
  | .ignore _ => Unit
  | .disengage => Unit
  | .report _ => Unit
  | .createNode .. => Except Fault Handle
  | .connect .. => Except Fault Handle
  | .delete _ => Except Fault Unit
  | .global _ => Except Fault Value
  | .setGlobal .. => Except Fault Unit
  | .globals => List (String × Value)
  | .log _ => Unit
  | .print _ => Unit
  | .environment => List (String × String)
  | .fetch .. => Except WebFailure WebReply

/-- A computation that asks questions: it is done, has failed, has broken down,
or asks and goes on with the answer. -/
inductive Program (α : Type) where
  | done (a : α)
  | fail (f : Fault)
  | crash (message : String)
  | ask (r : Request) (next : r.Response → Program α)

namespace Program

/-- One program after the other. -/
def bind {α β : Type} : Program α → (α → Program β) → Program β
  | .done a, k => k a
  | .fail f, _ => .fail f
  | .crash m, _ => .crash m
  | .ask r next, k => .ask r fun answer => (next answer).bind k

instance : Monad Program where
  pure := .done
  bind := bind

/-- Asks a single question. -/
def question (r : Request) : Program r.Response := .ask r .done

/-- Goes on with a result, or fails. -/
def ofExcept {α : Type} : Except Fault α → Program α
  | .ok a => .done a
  | .error f => .fail f

/-- Wraps the failures of a program in a label. A failed program has no later
questions, so only its last leaf changes. -/
def within {α : Type} (label : String) : Program α → Program α
  | .done a => .done a
  | .fail f => .fail (.within label f)
  | .crash m => .crash m
  | .ask r next => .ask r fun answer => (next answer).within label

def fields (t : Target) : Program Fields := question (.fields t)

def setField (t : Target) (name : String) (v : Value) : Program Unit := do
  ofExcept (← question (.setField t name v))

def hops (f : HopFilter) : Program (List Hop) := do
  ofExcept (← question (.hops f))

def visit (first : Bool) (targets : List Handle) : Program Unit := do
  ofExcept (← question (.visit first targets))

def ignore (targets : List Handle) : Program Unit := question (.ignore targets)

def disengage : Program Unit := question .disengage

def report (v : Value) : Program Unit := question (.report v)

def createNode (arch : String) (init : List (String × Value)) : Program Handle := do
  ofExcept (← question (.createNode arch init))

def connect (arch : String) (source target : Handle) (init : List (String × Value)) :
    Program Handle := do
  ofExcept (← question (.connect arch source target init))

def delete (h : Handle) : Program Unit := do
  ofExcept (← question (.delete h))

def global (name : String) : Program Value := do
  ofExcept (← question (.global name))

def setGlobal (name : String) (v : Value) : Program Unit := do
  ofExcept (← question (.setGlobal name v))

def globals : Program (List (String × Value)) := question .globals

def log (r : LogRecord) : Program Unit := question (.log r)

def print (text : String) : Program Unit := question (.print text)

def environment : Program (List (String × String)) := question .environment

def fetch (method url : String) : Program (Except WebFailure WebReply) :=
  question (.fetch method url)

end Program

/-- What a body knows without asking: nothing of it changes while it runs. -/
structure Occasion where
  event : Event
  /-- The ability that runs. -/
  path : Path
  /-- The module that defined the running body. -/
  module : String
  /-- The architype that owns the ability's instance: the walker's or the
  position's. -/
  self : ArchKey
  here : ArchKey
  visitor : ArchKey
  /-- The position. -/
  position : Handle
  /-- The arguments the walker was spawned with. -/
  args : Value
deriving Repr, Inhabited

/-- How a body came about. -/
inductive BodyForm where
  | native
  | script (origin : String) (statements : Nat)
deriving Repr, DecidableEq, Inhabited

structure Body where
  form : BodyForm
  run : Occasion → Program Unit

instance : Inhabited Body := ⟨⟨.native, fun _ => .done ()⟩⟩

end GraphWalk
