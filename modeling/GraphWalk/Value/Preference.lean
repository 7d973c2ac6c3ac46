import GraphWalk.Value.Type

/-!
# Preference between types

Of two types the more general one is preferred: strings over other primitives,
lists over tuples and sets, maps over objects, anything over the dynamic type.
`Ty.preferred` sorts types so that no type comes after one it is preferred to.
-/

namespace GraphWalk

namespace Ty

/-- Preference between two types for unification: `-1` if the first is the more
general one, `1` if the second is. -/
def preference : Ty → Ty → Int
  | .dynamic, .dynamic => 0
  | .dynamic, _ => 1
  | _, .dynamic => -1
  | .string, .string => 0
  | .string, .bool | .string, .number => -1
  | .bool, .string | .number, .string => 1
  | .list a, .list b | .set a, .set b | .map a, .map b => preference a b
  | .list _, .set _ | .tuple _, .set _ => -1
  | .set _, .list _ | .set _, .tuple _ => 1
  | .list _, .tuple _ => -1
  | .tuple _, .list _ => 1
  | .map _, .object _ => -1
  | .object _, .map _ => 1
  | .object as, .object bs => combine (overAttrs as bs)
  | .tuple as, .tuple bs => combine (overList as bs)
  | _, _ => 0
where
  /-- One side must be at least as general in every part. -/
  combine : Option (Bool × Bool) → Int
    | some (true, false) => -1
    | some (false, true) => 1
    | _ => 0
  overList : List Ty → List Ty → Option (Bool × Bool)
    | [], [] => some (false, false)
    | a :: as, b :: bs => (overList as bs).map fun (l, r) =>
      let p := preference a b
      (l || p < 0, r || p > 0)
    | _, _ => none
  overAttrs : List (String × Ty) → List (String × Ty) → Option (Bool × Bool)
    | [], [] => some (false, false)
    | (k, a) :: as, (k', b) :: bs =>
      if k = k' then (overAttrs as bs).map fun (l, r) =>
        let p := preference a b
        (l || p < 0, r || p > 0)
      else none
    | _, _ => none

/-- The positions of the types in order of preference. A position follows once all
that are preferred to it have come; those without any come first. -/
def preferred (tys : List Ty) : List Nat :=
  let n := tys.length
  let waits := (List.range n).map fun j => ((List.range n).filter (above · j)).length
  go n ((List.range n).filter fun j => waits[j]? = some 0) waits
where
  /-- Whether the type at `i` is more general than the one at `j`. -/
  above (i j : Nat) : Bool :=
    match tys[i]?, tys[j]? with
    | some a, some b =>
      if i < j then preference a b < 0 else if j < i then preference b a > 0 else false
    | _, _ => false
  /-- Takes the head of the queue; what waits for nothing else now joins the queue.
  `waits` counts for each position how many are still to come before it. -/
  go : Nat → List Nat → List Nat → List Nat
    | 0, _, _ => []
    | _ + 1, [], _ => []
    | fuel + 1, i :: queue, waits =>
      let waits' := waits.mapIdx fun j w => if above i j then w - 1 else w
      let ready := (List.range tys.length).filter fun j =>
        above i j && waits'[j]? = some 0
      i :: go fuel (queue ++ ready) waits'

end Ty

end GraphWalk
