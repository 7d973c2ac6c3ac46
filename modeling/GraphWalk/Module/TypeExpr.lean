import GraphWalk.Expr.Basic
import GraphWalk.Text.Quoted

/-!
# Types as they are written

A type is written as a word (`string`, `number`, `bool`, `any`), as a collection
of another type (`list`, `map`, `set`), or as an object with a type for each
attribute. `Expr.asType` reads such an expression without evaluating it.

The attributes of an object are put into a map under their keys as they are written,
and the names are composed while the map is visited. Keys that are written differently
and composed alike become one attribute, and which of their types it has depends on the
order of the visit (`MapOrders`).
-/

namespace GraphWalk

/-- **The orders in which maps are visited** while a type is read. The empty path is that of
the map of the outermost object; the map of an object inside has the path of the places of
the items that lead to it. -/
structure MapOrders where
  visit : List Nat → List (String × Ty) → List (String × Ty)
  perm : ∀ path entries, (visit path entries).Perm entries

namespace MapOrders

/-- Every map in the order of its keys. -/
def byKey : MapOrders := ⟨fun _ entries => entries, fun _ _ => .refl _⟩

/-- The orders of the maps inside the item at a place. -/
def inside (o : MapOrders) (place : Nat) : MapOrders :=
  ⟨fun path => o.visit (place :: path), fun path => o.perm (place :: path)⟩

end MapOrders

/-- Why an expression is no type. -/
inductive TypeExprError where
  | collectionArity (count : Nat)
  | elementAny
  | unknownConstructor (name : String)
  | notOneWord
  | unknownWord (name : String)
  | unsupported (form : String)
  | objectArity (count : Nat)
  | objectArgument (form : String)
  | badKey
  | inAttribute (key : String) (cause : TypeExprError)
deriving Repr, DecidableEq

def TypeExprError.message : TypeExprError → String
  | .collectionArity n =>
    "type constructors (list, map, set) require exactly one argument, got " ++ toString n
  | .elementAny => "collection types cannot contain type 'any'"
  | .unknownConstructor name => "unknown type constructor function " ++ Text.quote name
  | .notOneWord => "invalid type keyword: traversal path is not a single identifier"
  | .unknownWord name => "unknown primitive type " ++ Text.quote name
  | .unsupported form => "unsupported expression for type definition: " ++ form
  | .objectArity n =>
    "the object() type constructor requires exactly one argument (the object definition), got "
      ++ toString n
  | .objectArgument form =>
    "the argument to object() must be an object literal like \x7b key = type, ... \x7d, got "
      ++ form
  | .badKey =>
    "invalid key in object type definition: keys must be simple identifiers or quoted strings, " ++
      "not complex expressions"
  | .inAttribute key cause => "in object attribute '" ++ key ++ "': " ++ cause.message

namespace Expr

/-- What messages call the form of an expression. -/
def form : Expr → String
  | .literal .. => "*hclsyntax.LiteralValueExpr"
  | .reference .. => "*hclsyntax.ScopeTraversalExpr"
  | .access .. => "*hclsyntax.RelativeTraversalExpr"
  | .index .. => "*hclsyntax.IndexExpr"
  | .splat .. => "*hclsyntax.SplatExpr"
  | .element .. => "*hclsyntax.AnonSymbolExpr"
  | .call .. => "*hclsyntax.FunctionCallExpr"
  | .conditional .. => "*hclsyntax.ConditionalExpr"
  | .unary .. => "*hclsyntax.UnaryOpExpr"
  | .binary .. => "*hclsyntax.BinaryOpExpr"
  | .template .. => "*hclsyntax.TemplateExpr"
  | .interpolated .. => "*hclsyntax.TemplateWrapExpr"
  | .joined .. => "*hclsyntax.TemplateJoinExpr"
  | .tuple .. => "*hclsyntax.TupleConsExpr"
  | .object .. => "*hclsyntax.ObjectConsExpr"
  | .tupleLoop .. | .objectLoop .. => "*hclsyntax.ForExpr"
  | .parens .. => "*hclsyntax.ParenthesesExpr"

/-- The attribute name a key stands for: a single word or a constant text that is
not empty. -/
def typeKey? (e : Expr) : Option String :=
  let name := match e with
    | .reference name [] _ => some name
    | e => e.constantText?
  name.filter (· ≠ "")

/-- The type a single word names. -/
def wordType? : String → Option Ty
  | "string" => some .string
  | "number" => some .number
  | "bool" => some .bool
  | "any" => some .dynamic
  | _ => none

/-- The collection with a given element type. -/
def collectionType? (constructor : String) (elem : Ty) : Option Ty :=
  match constructor with
  | "list" => some (.list elem)
  | "map" => some (.map elem)
  | "set" => some (.set elem)
  | _ => none

mutual

/-- The type an expression spells. -/
def asType (o : MapOrders) : Expr → Except TypeExprError Ty
  | .call "object" args _ _ _ => objectArguments o args
  | .call name args _ _ _ => do
    let elem ← onlyArgument o args
    if elem == .dynamic then throw .elementAny
    match collectionType? name elem with
    | some ty => return ty
    | none => throw (.unknownConstructor name)
  | .reference name [] _ =>
    match wordType? name with
    | some ty => .ok ty
    | none => .error (.unknownWord name)
  | .reference .. => .error .notOneWord
  | e => .error (.unsupported e.form)

/-- The type of the only argument of a collection. -/
def onlyArgument (o : MapOrders) : List Expr → Except TypeExprError Ty
  | [e] => asType o e
  | args => .error (.collectionArity args.length)

/-- The type of an object from its only argument, an object constructor. -/
def objectArguments (o : MapOrders) : List Expr → Except TypeExprError Ty
  | [e] => objectItems o e
  | args => .error (.objectArity args.length)

/-- The map has the last type of each key, and is visited in its order. -/
def objectItems (o : MapOrders) : Expr → Except TypeExprError Ty
  | .object items _ => do return .ofAttrs (o.visit [] (sortKeys (← attributeTypes o 0 items)))
  | e => .error (.objectArgument e.form)

/-- The types of items, the first of which is at a place. -/
def attributeTypes (o : MapOrders) (place : Nat) :
    List (Expr × Expr) → Except TypeExprError (List (String × Ty))
  | [] => .ok []
  | (k, v) :: rest =>
    match typeKey? k with
    | none => .error .badKey
    | some key => do
      let ty ← (asType (o.inside place) v).mapError (.inAttribute key)
      let more ← attributeTypes o (place + 1) rest
      return (key, ty) :: more

end

end Expr

end GraphWalk
