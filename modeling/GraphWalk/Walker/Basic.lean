import GraphWalk.Store.Basic
import GraphWalk.Walker.Trace

/-!
# Walkers

A walker stands on a position, has a queue of positions to visit next and a set
of handles it ignores, and collects the values it reports and the faults it met.
-/

namespace GraphWalk

inductive WalkerState where
  /-- Spawned, not stepped yet. -/
  | ready
  | active
  | completed
  | disengaged
  | failed
deriving Repr, DecidableEq, Inhabited

namespace WalkerState

def text : WalkerState → String
  | .ready => "ready"
  | .active => "active"
  | .completed => "completed"
  | .disengaged => "disengaged"
  | .failed => "failed"

/-- Whether a walker in this state never steps again. -/
def isTerminal : WalkerState → Bool
  | .ready | .active => false
  | _ => true

end WalkerState

structure Walker where
  id : String
  arch : Architype
  fields : Fields
  /-- The arguments it was spawned with. -/
  args : Value
  state : WalkerState
  position : Handle
  queue : List Handle
  ignored : List Handle
  /-- The reported values, in order. -/
  reports : List Value
  /-- The faults it met, in order. -/
  faults : List Fault
  /-- The number of positions processed. -/
  steps : Nat
  isDisengaged : Bool
deriving Inhabited

/-- Adds targets at the end of the queue, or in front of it. -/
def Walker.enqueue (w : Walker) (first : Bool) (targets : List Handle) : Walker :=
  { w with queue := if first then targets ++ w.queue else w.queue ++ targets }

end GraphWalk
