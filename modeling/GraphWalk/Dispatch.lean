import GraphWalk.Registry.Basic

/-!
# Dispatch

Which abilities run when a walker meets a position: first those of the walker,
then those of the position, each in the order of its effective abilities.
-/

namespace GraphWalk

/-- Whose ability an invocation runs. -/
inductive Side where
  | walker
  | position
deriving Repr, DecidableEq, Inhabited

def Side.text : Side → String
  | .walker => "walker"
  | .position => "position"

structure Invocation where
  side : Side
  ability : Ability
deriving Inhabited

namespace Dispatch

/-- The abilities of `owner` that fire on `event` when it meets `other`. -/
def firing (owner other : Architype) (event : Event) : List Ability :=
  owner.effectiveAbilities.filter fun ab =>
    ab.signature.event = event && other.matchesAny ab.signature.filter

/-- The ordered invocations for a walker at a position. -/
def invocations (walker position : Architype) (event : Event) : List Invocation :=
  if event = .none then []
  else (firing walker position event).map (⟨.walker, ·⟩)
    ++ (firing position walker event).map (⟨.position, ·⟩)

/-- What an entry of the table is found by. -/
structure Key where
  epoch : Nat
  walker : ArchKey
  position : ArchKey
  event : Event
deriving Repr, DecidableEq, Inhabited

/-- Remembered invocations. -/
abbrev Table := List (Key × List Invocation)

/-- The remembered invocations, or new ones, which are remembered. -/
def Table.lookup (t : Table) (epoch : Nat) (walker position : Architype) (event : Event) :
    Table × List Invocation :=
  let key : Key := ⟨epoch, walker.key, position.key, event⟩
  match t.find? (·.1 = key) with
  | some entry => (t, entry.2)
  | none =>
    let found := invocations walker position event
    ((key, found) :: t, found)

end Dispatch

end GraphWalk
