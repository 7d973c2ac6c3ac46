import GraphWalk.Expr.Format
import GraphWalk.Text.Compose
import GraphWalk.Value.Conversion

/-!
# Functions

The functions that scripts can call. A function says what it takes, finds the
type of its result from its arguments, and computes the result. Arguments arrive
converted to the types of their parameters.

While an argument is not known the result is not known either, except where the
parameter admits it (`Parameter.unknown`). No result is null.
-/

namespace GraphWalk

/-- Why a call fails: one argument is at fault, counting from zero, or the call
as a whole. -/
inductive CallFailure where
  | argument (index : Nat)
  | whole
deriving Repr, DecidableEq

/-- A parameter: its type, and whether it admits nulls, values of unknown type,
and unknown values. -/
structure Parameter where
  type : Ty
  nulls : Bool := false
  anyType : Bool := false
  unknown : Bool := false
deriving Repr

/-- A function with its parameters in order and, if it takes any number of
further arguments, what it takes for those. -/
structure Function where
  params : List Parameter
  rest : Option Parameter := none
  resultType : List Value → Except CallFailure Ty
  compute : List Value → Ty → Except CallFailure Value

namespace Function

/-- The parameter for the `i`-th argument. -/
def param? (f : Function) (i : Nat) : Option Parameter := f.params[i]? <|> f.rest

/-- The arguments with their positions and parameters. -/
def pair (f : Function) (args : List Value) : List (Nat × Parameter × Value) :=
  (args.mapIdx fun i v => (f.param? i).map fun p => (i, p, v)).filterMap id

/-- Calls the function. Nulls are refused first; an argument of unknown type
leaves the result open; then the type of the result is found, and last the
result itself, which has to be of that type. -/
def call (f : Function) (args : List Value) : Except CallFailure Value := do
  let rec check : List (Nat × Parameter × Value) → Except CallFailure Bool
    | [] => .ok false
    | (i, p, v) :: more =>
      if v.isNull && !p.nulls then .error (.argument i)
      else if v.type.isDynamic && !p.anyType then .ok true
      else check more
  let pairs := f.pair args
  if ← check pairs then return .anything
  let ty ← f.resultType args
  if pairs.any fun (_, p, v) => !v.isKnown && !p.unknown then return .unknownNotNull ty
  let v ← f.compute args ty
  if v.type.conforms ty then return v.refineNotNull else throw .whole

/-- A result type that does not depend on the arguments. -/
def always (ty : Ty) : List Value → Except CallFailure Ty := fun _ => .ok ty

/-- A function of one number. -/
def onNumber (f : Number → Number) : Function where
  params := [{ type := .number, anyType := true }]
  resultType := always .number
  compute args _ := match args with
    | [.number n] => .ok (.number (f n))
    | _ => .error .whole

/-- A function of one text. -/
def onText (f : String → String) : Function where
  params := [{ type := .string, anyType := true }]
  resultType := always .string
  compute args _ := match args with
    | [.string s] => .ok (.text (f s))
    | _ => .error .whole

/-- The number that is ahead of all others in an order, with a limit behind which
there is none; there must be a number. -/
def extreme (ahead : Number → Number → Bool) (limit : Number) : Function where
  params := []
  rest := some { type := .number, anyType := true }
  resultType := always .number
  compute args _ :=
    if args.isEmpty then .error .whole
    else .ok (.number (args.foldl (fun best v => match v with
      | .number m => if ahead m best then m else best
      | _ => best) limit))

/-- The first argument that is not null, brought to the type that all have in
common. An argument that does not convert is passed over. -/
def coalesce : Function where
  params := []
  rest := some { type := .dynamic, nulls := true, anyType := true, unknown := true }
  resultType args := match Ty.unify false (args.map Value.type) with
    | some ty => .ok ty
    | none => .error .whole
  compute args ty :=
    let converted := args.filterMap fun v => (v.convert ty).toOption
    match converted.find? fun v => !v.isNull with
    | none => .error .whole
    | some v => if v.isKnown then .ok v else .ok (.unknown ty)

/-- The item types of a tuple or a known list; `none` for a list that is not
known. Anything else is at fault. -/
def itemTypes (v : Value) : Except Unit (Option (List Ty)) :=
  match v.type, v with
  | .tuple ts, _ => .ok (some ts)
  | .list t, .list _ vs => .ok (some (vs.map fun _ => t))
  | .list _, _ => .ok none
  | _, _ => .error ()

/-- The items of all arguments as one tuple type. -/
def concatTypes (i : Nat) (acc : List Ty) : List Value → Except CallFailure Ty
  | [] => .ok (.tuple acc)
  | v :: rest => match itemTypes v with
    | .error _ => .error (.argument i)
    | .ok none => .ok .dynamic
    | .ok (some ts) => concatTypes (i + 1) (acc ++ ts) rest

def itemsOfValue : Value → List Value
  | .list _ vs | .set _ vs | .tuple vs => vs
  | _ => []

/-- The items of lists and tuples, one after the other: a list if all are lists
with a common type, else a tuple. -/
def concat : Function where
  params := []
  rest := some { type := .dynamic }
  resultType args :=
    let lists := if args.all fun v => v.type.isList then Ty.unify false (args.map Value.type)
      else none
    if args.isEmpty then .error .whole
    else match lists with
      | some ty => .ok ty
      | none => concatTypes 0 [] args
  compute args ty := match ty with
    | .list t => do
      let parts ← (args.mapIdx fun i v => (i, v)).mapM fun (i, v) =>
        (v.convert ty).mapError fun _ => .argument i
      let items := parts.flatMap itemsOfValue
      if items.isEmpty then return .list t []
      else (Value.listOf items).mapError fun _ => .whole
    | _ => .ok (.tuple (args.flatMap itemsOfValue))

/-- Whether a sequence holds a value; open while an item that is not known could
be it. -/
def contains : Function where
  params := [{ type := .dynamic }, { type := .dynamic }]
  resultType := always .bool
  compute args _ := match args with
    | [seq, v] => match seq with
      | .list _ vs | .set _ vs | .tuple vs =>
        let answers := vs.map fun u => v.equals u
        if answers.contains (some true) then .ok (.bool true)
        else if answers.contains none then .ok (.unknownNotNull .bool)
        else .ok (.bool false)
      | _ => .error .whole
    | _ => .error .whole

/-- Fills values into a text. While a value is not known, the text in front of the
first verb is. -/
def format : Function where
  params := [{ type := .string }]
  rest := some { type := .dynamic, nulls := true, anyType := true, unknown := true }
  resultType := always .string
  compute args _ := match args with
    | .string s :: rest =>
      if rest.all Value.isWhollyKnown then
        match Format.render s rest with
        | .ok t => .ok (.text t)
        | .error (.unused i) => .error (.argument (i + 1))
        | .error .invalid => .error .whole
      else
        let front := String.ofList (s.toList.takeWhile (· ≠ '%'))
        if front = s then .ok (.unknown .string)
        else .ok (.ofHint .string { notNull := true, start := Text.knownStart front })
    | _ => .error .whole

/-- The texts of one argument of `join`; a null among them is at fault. -/
def joinItems (i : Nat) (v : Value) : Except CallFailure (List String) :=
  (itemsOfValue v).mapM fun
    | .string s => .ok s
    | _ => .error (.argument i)

/-- Texts with a separator between them. -/
def join : Function where
  params := [{ type := .string }]
  rest := some { type := .list .string, unknown := true }
  resultType := always .string
  compute args _ := match args with
    | .string sep :: lists => do
      if lists.isEmpty then throw .whole
      if !lists.all Value.isWhollyKnown then return .unknown .string
      let texts ← (lists.mapIdx fun i v => (i + 1, v)).mapM fun (i, v) => joinItems i v
      return .text (sep.intercalate texts.flatten)
    | _ => .error .whole

/-- The keys of a map or the names of an object, sorted. -/
def keys : Function where
  params := [{ type := .dynamic, unknown := true }]
  resultType args := match args.map Value.type with
    | [.map _] => .ok (.list .string)
    | [.object attrs] => .ok (.tuple (attrs.map fun _ => .string))
    | _ => .error (.argument 0)
  compute args ty := match args with
    | [.map _ kvs] => .ok (.list .string (kvs.map fun kv => .string kv.1))
    | [v] => match v.type with
      | .object attrs => .ok (.tuple (attrs.map fun kv => .string kv.1))
      | _ => .ok (.unknown ty)
    | _ => .error .whole

/-- The number of elements. Objects have none to count. -/
def length : Function where
  params := [{ type := .dynamic, anyType := true, unknown := true }]
  resultType args := match args.map Value.type with
    | [.tuple _] | [.list _] | [.map _] | [.set _] | [.dynamic] => .ok .number
    | _ => .error .whole
  compute args _ := match args with
    | [v] => .ok v.length
    | _ => .error .whole

/-- The attributes that `merge` finds in an argument; `none` for a map that is
not known. -/
def mergeTypes (v : Value) : Option (List (String × Ty)) :=
  match v with
  | .null _ => some []
  | .map t kvs => some (kvs.map fun kv => (kv.1, t))
  | _ => match v.type with
    | .object attrs => some attrs
    | _ => none

def mergeType (args : List Value) : Except CallFailure Ty :=
  match args with
  | [] => .ok (.object [])
  | first :: _ =>
    match args.find? fun v => v.type.isDynamic || !(v.type.isMap || v.type.isObject) with
    | some v => if v.type.isDynamic then .ok .dynamic else .error .whole
    | none =>
      if args.all fun v => v.type == first.type then .ok first.type
      else match args.mapM mergeTypes with
        | none => .ok .dynamic
        | some parts => .ok (.ofAttrs parts.flatten)

/-- What an argument of `merge` adds. A set of texts adds each text under itself;
it can stand beside a null that has no type. -/
def mergeEntries : Value → Except CallFailure (List (String × Value))
  | .null _ | .list _ [] | .tuple [] => .ok []
  | .map _ kvs | .object kvs => .ok kvs
  | .set _ vs => vs.mapM fun
    | .string s => .ok (s, .string s)
    | _ => .error .whole
  | _ => .error .whole

/-- The entries of all arguments; later ones win. Nulls add nothing. -/
def merge : Function where
  params := []
  rest := some { type := .dynamic, nulls := true, anyType := true }
  resultType := mergeType
  compute args ty := do
    let parts ← args.mapM mergeEntries
    let entries := sortKeys parts.flatten
    match ty with
    | .map t =>
      if entries.isEmpty then return .map t []
      else (Value.mapOf entries).mapError fun _ => .whole
    | _ => return .object entries

/-- All functions by name. -/
def table : List (String × Function) :=
  [("abs", onNumber Number.abs), ("ceil", onNumber Number.ceil), ("coalesce", coalesce),
    ("concat", concat), ("contains", contains), ("floor", onNumber Number.floor),
    ("format", format), ("join", join), ("keys", keys), ("length", length),
    ("lower", onText Text.lower), ("max", extreme (fun a b => b.lt a) (.infinity true)), ("merge", merge),
    ("min", extreme (fun a b => a.lt b) (.infinity false)), ("upper", onText Text.upper)]

def find? (name : String) : Option Function := lookupKey name table

end Function

end GraphWalk
