import GraphWalk.Expr.Access

/-!
# Operators

Operands are converted to what the operator takes: numbers for arithmetic and
order, truth values for logic, and anything for equality. An operand that does
not convert, and a null where a value is needed, is an issue.
-/

namespace GraphWalk

/-- The type an operator takes. -/
def BinaryOp.operand : BinaryOp → Ty
  | .or | .and => .bool
  | .equal | .notEqual => .dynamic
  | _ => .number

/-- The type of the result of an operator. -/
def BinaryOp.result : BinaryOp → Ty
  | .add | .sub | .mul | .div | .rem => .number
  | _ => .bool

/-- An answer that may be open, as a value. -/
def Value.ofOpen : Option Bool → Value
  | some b => .bool b
  | none => .unknownNotNull .bool

/-- The result on two numbers; none if there is no such number. -/
def BinaryOp.onNumbers (op : BinaryOp) (x y : Number) : Option Value :=
  match op with
  | .add => (x.add y).map .number
  | .sub => (x.sub y).map .number
  | .mul => (x.mul y).map .number
  | .div => (x.div y).map .number
  | .rem => (x.rem y).map .number
  | _ => none

/-- The result on converted operands; none if the operation fails. -/
def BinaryOp.apply (op : BinaryOp) (x y : Value) : Option Value :=
  match op with
  | .equal => some (.ofOpen (x.equals y))
  | .notEqual => some (.ofOpen ((x.equals y).map (!·)))
  | _ =>
    if x.isNull || y.isNull then none
    else match op, x, y with
      | .less, _, _ => some (.ofOpen (x.less y))
      | .greater, _, _ => some (.ofOpen (y.less x))
      | .lessEqual, _, _ => some (.ofOpen (x.lessOrEqual y))
      | .greaterEqual, _, _ => some (.ofOpen (y.lessOrEqual x))
      | .and, .bool a, .bool b => some (.bool (a && b))
      | .or, .bool a, .bool b => some (.bool (a || b))
      | op, .number a, .number b => op.onNumbers a b
      | op, _, _ => some (.unknownNotNull op.result)

/-- Whether a truth value is known to be true. A null is not. -/
def Value.isTrue : Value → Bool
  | .bool b => b
  | _ => false

/-- What one operand of a logical operator decides alone. The operand `decisive`
decides; next to the other constant an operand that is not known does. Issues of
the other side are then dropped. -/
def decided (decisive : Bool) (x y : Outcome) : Option Outcome :=
  let decides (v : Value) : Bool := v.isKnown && v.isTrue == decisive
  if !x.value.isKnown && !y.value.isKnown then none
  else if decides x.value then some ⟨.bool decisive, x.issue⟩
  else if decides y.value then some ⟨.bool decisive, y.issue⟩
  else if !x.value.isKnown then some ⟨.unknown .bool, x.issue⟩
  else if !y.value.isKnown then some ⟨.unknown .bool, y.issue⟩
  else none

/-- What a logical operator decides from one side. -/
def BinaryOp.shortcut (op : BinaryOp) (x y : Outcome) : Option Outcome :=
  match op with
  | .or => decided true x y
  | .and => decided false x y
  | _ => none

/-- An operand brought to a type. -/
def operandOf (ty : Ty) (o : Outcome) (line : Nat) : Outcome × Option Issue :=
  match o.value.convert ty with
  | .ok v => (⟨v, o.issue⟩, none)
  | .error _ => (⟨.unknown ty, o.issue⟩, some ⟨line, .invalidOperand⟩)

/-- A binary operation on evaluated operands that start on the given lines. An
operand of a wrong type comes before all issues of the operands. -/
def BinaryOp.evaluate (op : BinaryOp) (x y : Outcome) (xLine yLine : Nat) : Outcome :=
  let (x', xBad) := operandOf op.operand x xLine
  let (y', yBad) := operandOf op.operand y yLine
  match xBad <|> yBad with
  | some bad => ⟨.unknown op.result, some bad⟩
  | none =>
    match op.shortcut x' y' with
    | some o => o
    | none =>
      match x.issue <|> y.issue with
      | some i => ⟨.unknown op.result, some i⟩
      | none =>
        match op.apply x'.value y'.value with
        | some v => .ok v
        | none => ⟨.unknown op.result, some ⟨xLine, .failedOperation⟩⟩

/-- A unary operation on an evaluated operand. -/
def UnaryOp.evaluate (op : UnaryOp) (x : Outcome) (line xLine : Nat) : Outcome :=
  let ty : Ty := match op with
    | .negate => .number
    | .not => .bool
  let (x', bad) := operandOf ty x xLine
  match x.issue <|> bad with
  | some i => ⟨.unknown ty, some i⟩
  | none =>
    match op, x'.value with
    | _, .null _ => ⟨.unknown ty, some ⟨line, .failedOperation⟩⟩
    | .negate, .number n => .ok (.number n.negate)
    | .not, .bool b => .ok (.bool !b)
    | _, _ => .ok (.unknownNotNull ty)

end GraphWalk
