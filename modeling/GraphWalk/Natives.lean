import GraphWalk.Body

/-!
# Native bodies

Bodies that modules refer to by name.
-/

namespace GraphWalk

/-- The known native bodies. -/
structure Natives where
  entries : List (String × Body)
deriving Inhabited

namespace Natives

def empty : Natives := ⟨[]⟩

/-- A registration that shows a mistake in the program itself. -/
inductive RegistrationError where
  | taken (name : String)
  | noBody (name : String)
deriving Repr, DecidableEq

def RegistrationError.message : RegistrationError → String
  | .taken name => "native body with name '" ++ name ++ "' already registered"
  | .noBody name => "native body '" ++ name ++ "' is nil"

def find? (n : Natives) (name : String) : Option Body := lookupKey name n.entries

/-- Adds a body under a new name. -/
def register (n : Natives) (name : String) (body : Option Body) :
    Except RegistrationError Natives :=
  match n.find? name, body with
  | some _, _ => .error (.taken name)
  | none, none => .error (.noBody name)
  | none, some b => .ok ⟨n.entries ++ [(name, b)]⟩

/-- The registered names, sorted. -/
def names (n : Natives) : List String := (n.entries.map (·.1)).mergeSort (· ≤ ·)

end Natives

end GraphWalk
