import GraphWalk.Number.Double
import GraphWalk.Value.Basic

/-!
# Constructor form of values

A value that has no JSON text is shown by the constructor calls that build it.
-/

namespace GraphWalk

mutual

def Ty.literal : Ty → String
  | .dynamic => "cty.DynamicPseudoType"
  | .bool => "cty.Bool"
  | .number => "cty.Number"
  | .string => "cty.String"
  | .list t => "cty.List(" ++ t.literal ++ ")"
  | .set t => "cty.Set(" ++ t.literal ++ ")"
  | .map t => "cty.Map(" ++ t.literal ++ ")"
  | .object [] => "cty.EmptyObject"
  | .object attrs => "cty.Object(map[string]cty.Type\x7b" ++ ", ".intercalate (attrLiterals attrs)
      ++ "\x7d)"
  | .tuple [] => "cty.EmptyTuple"
  | .tuple ts => "cty.Tuple([]cty.Type\x7b" ++ ", ".intercalate (typeLiterals ts) ++ "\x7d)"

def typeLiterals : List Ty → List String
  | [] => []
  | t :: ts => t.literal :: typeLiterals ts

def attrLiterals : List (String × Ty) → List String
  | [] => []
  | (k, t) :: rest => (Text.quote k ++ ":" ++ t.literal) :: attrLiterals rest

end

namespace Value

/-- A number: whole, exact in 53 bits, or as a text to be read. -/
def numberLiteral (n : Number) : String :=
  if n.isWhole && !n.isInfinite then
    "cty.NumberIntVal(" ++ n.render (.general false) none ++ ")"
  else if n.isInfinite then "cty.NumberFloatVal(" ++ n.text ++ ")"
  else match Number.Double.ofNumber? n with
    | some d =>
      let back : Number := ⟨d.neg, .finite d.mant d.exp, 53⟩
      if back.eqv n then "cty.NumberFloatVal(" ++ back.render (.general false) none ++ ")"
      else "cty.MustParseNumberVal(" ++ Text.quote n.text ++ ")"
    | none => "cty.MustParseNumberVal(" ++ Text.quote n.text ++ ")"

/-- The items of a constructor call, or the call without any. -/
def callLiteral (name elems : String) (empty : String) (items : List String) : String :=
  if items.isEmpty then empty
  else "cty." ++ name ++ "(" ++ elems ++ "\x7b" ++ ", ".intercalate items ++ "\x7d)"

/-- The calls that add a hint to an unknown value. -/
def hintLiteral (h : Hint) : String :=
  let bound (name : String) : Option (Number × Bool) → String
    | some (n, incl) =>
      if n.isLimit then ""
      else "." ++ name ++ "(" ++ numberLiteral n ++ ", " ++ toString incl ++ ")"
    | none => ""
  let calls := (if h.notNull then ".NotNull()" else "")
    ++ (if h.start = "" then "" else ".StringPrefixFull(" ++ Text.quote h.start ++ ")")
    ++ bound "NumberLowerBound" h.low ++ bound "NumberUpperBound" h.high
    ++ (if h.minLength = 0 then "" else ".LengthLowerBound(" ++ toString h.minLength ++ ")")
    ++ (if h.maxLength = maxLength then ""
      else ".LengthUpperBound(" ++ toString h.maxLength ++ ")")
  if calls = ".NotNull()" then ".RefineNotNull()" else ".Refine()" ++ calls ++ ".NewValue()"

mutual

def literal : Value → String
  | .null t => "cty.NullVal(" ++ t.literal ++ ")"
  | .unknown t h =>
    if t == .dynamic then "cty.DynamicVal"
    else "cty.UnknownVal(" ++ t.literal ++ ")" ++ (h.map hintLiteral).getD ""
  | .bool b => if b then "cty.True" else "cty.False"
  | .number n => numberLiteral n
  | .string s => "cty.StringVal(" ++ Text.quote s ++ ")"
  | .list t vs =>
    callLiteral "ListVal" "[]cty.Value" ("cty.ListValEmpty(" ++ t.literal ++ ")") (literals vs)
  | .set t vs =>
    callLiteral "SetVal" "[]cty.Value" ("cty.SetValEmpty(" ++ t.literal ++ ")") (literals vs)
  | .map t kvs =>
    callLiteral "MapVal" "map[string]cty.Value" ("cty.MapValEmpty(" ++ t.literal ++ ")")
      (entryLiterals kvs)
  | .object kvs =>
    callLiteral "ObjectVal" "map[string]cty.Value" "cty.EmptyObjectVal" (entryLiterals kvs)
  | .tuple vs => callLiteral "TupleVal" "[]cty.Value" "cty.EmptyTupleVal" (literals vs)

def literals : List Value → List String
  | [] => []
  | v :: vs => v.literal :: literals vs

def entryLiterals : List (String × Value) → List String
  | [] => []
  | (k, v) :: rest => (Text.quote k ++ ":" ++ v.literal) :: entryLiterals rest

end

end Value

end GraphWalk
