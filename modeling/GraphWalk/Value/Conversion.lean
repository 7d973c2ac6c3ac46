import GraphWalk.Value.Engine

/-!
# Conversion

`Value.convert v ty` brings a value to a type: primitives through their texts,
structures part by part, structures to collections whose elements all convert.
`Ty.mismatch` says why two types do not convert.
-/

namespace GraphWalk

namespace Ty

/-- The names as a list in a sentence, each quoted. -/
def quotedNames : List String → String
  | [] => ""
  | [a] => "attribute " ++ Text.quote a ++ " is required"
  | [a, b] => "attributes " ++ Text.quote a ++ " and " ++ Text.quote b ++ " are required"
  | names =>
    let front := names.dropLast.map fun n => Text.quote n ++ ", "
    "attributes " ++ "".intercalate front ++ "and "
      ++ Text.quote (names.getLast?.getD "") ++ " are required"

/-- Why no conversion exists, in one phrase. The reason is looked for in the parts
of the types, down to `depth`. -/
def mismatch (depth : Nat) (got want : Ty) : String :=
  match depth with
  | 0 => want.constraintName ++ " required"
  | depth + 1 =>
    let plain := want.constraintName ++ " required"
    let named := want.friendlyName ++ " required, but have " ++ got.friendlyName
    let inner (label : String) (g w : Ty) : String := label ++ ": " ++ mismatch depth g w
    let firstBad (parts : List (String × Ty)) (w : Ty) : Option String :=
      (parts.find? fun (_, g) => !(g == w) && (conversion? false g w).isNone).map
        fun (label, g) => inner label g w
    match got, want with
    | .object gs, .object ws =>
      let missing := (ws.filter fun (k, _) => (lookupKey k gs).isNone).map (·.1)
      let bad (safe : Bool) := ws.findSome? fun (k, w) => match lookupKey k gs with
        | some g => if g == w || (conversion? safe g w).isSome then none
          else some (inner ("attribute " ++ Text.quote k) g w)
        | none => none
      if !missing.isEmpty then quotedNames missing
      else ((bad false).orElse fun _ => bad true).getD "incorrect object attributes"
    | .tuple _, .list .dynamic => "all list elements must have the same type"
    | .tuple _, .set .dynamic => "all set elements must have the same type"
    | .object _, .map .dynamic => "all map elements must have the same type"
    | .tuple gs, .list w | .tuple gs, .set w =>
      (firstBad (gs.mapIdx fun i g => ("element " ++ toString i, g)) w).getD ("all elements must be " ++ w.constraintName)
    | .object gs, .map w =>
      (firstBad (gs.map fun (k, g) => ("element " ++ Text.quote k, g)) w).getD
        ("all elements must be " ++ w.constraintName)
    | .list g, .list w | .set g, .list w => inner "incorrect list element type" g w
    | .list g, .set w | .set g, .set w => inner "incorrect set element type" g w
    | .map g, .map w => inner "incorrect map element type" g w
    | .map _, .object _ => plain
    | got, want =>
      if got.isPrimitive || want.isPrimitive || want.isObject then named else plain

end Ty

/-- Brings a value to a type. -/
def Value.convert (v : Value) (want : Ty) : Except ConversionError Value :=
  if v.type == want then .ok v
  else match Ty.conversion? false v.type want with
    | some conv => conv v
    | none => .error (.mismatch (Ty.mismatch (v.type.depth + want.depth) v.type want))

end GraphWalk
