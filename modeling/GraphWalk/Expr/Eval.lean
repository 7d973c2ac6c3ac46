import GraphWalk.Expr.Function
import GraphWalk.Expr.Operator

/-!
# Evaluation

`Expr.eval` finds the value of an expression in a scope. It goes by recursion on
the expression, so every evaluation ends. Parts with an issue have a value that
is not known, and evaluation goes on around them; a branch that is not taken
keeps its issues to itself.
-/

namespace GraphWalk

/-- What expressions can refer to. Without `names` there are no variables at all;
`element` is the one the innermost splat stands at. -/
structure Scope where
  names : Option (List (String × Value))
  calls : Bool
  element : Value := .anything
deriving Repr

namespace Scope

/-- The scope of constant expressions: neither variables nor functions. -/
def constant : Scope := { names := none, calls := false }

/-- A scope with variables, in which functions can be called. -/
def ofNames (names : List (String × Value)) : Scope := { names := some names, calls := true }

/-- The scope inside a loop. -/
def bind (s : Scope) (keyName : Option String) (valueName : String) (key value : Value) : Scope :=
  let keyed := match keyName with
    | some k => [(k, key)]
    | none => []
  { s with names := some ((valueName, value) :: keyed ++ s.names.getD []) }

/-- The value of a name, after some steps. -/
def lookup (s : Scope) (name : String) (steps : List Step) (line : Nat) : Outcome :=
  match s.names with
  | none => .bad line .variablesNotAllowed
  | some names => match lookupKey name names with
    | some v => Step.applyAll steps v
    | none => .bad line .unknownVariable

end Scope

/-- An evaluated part of an expression: its outcome, the line it starts on, and
the line that stands for it as an argument. -/
structure Part where
  outcome : Outcome
  line : Nat
  headLine : Nat

/-- The first issue of some parts. -/
def Part.issue (ps : List Part) : Option Issue := ps.findSome? (·.outcome.issue)

/-- The arguments of a call with the last one spread out. -/
def spreadArguments (parts : List Part) : Except Outcome (List Part) :=
  match parts.getLast? with
  | none => .ok parts
  | some last =>
    let v := last.outcome.value
    let refuse := Except.error (Outcome.bad last.line .invalidSpread)
    if last.outcome.issue.isSome then .error ⟨.anything, last.outcome.issue⟩
    else match v.type with
      | .dynamic => if v.isNull then refuse else .error (.ok .anything)
      | .tuple _ | .list _ | .set _ =>
        if v.isNull then refuse
        else if !v.isKnown then .error (.ok .anything)
        else
          let more := v.elements.map fun (_, item) => (⟨.ok item, last.line, last.line⟩ : Part)
          .ok (parts.dropLast ++ more)
      | _ => refuse

/-- Brings an argument to the type of its parameter. -/
def convertArgument (ty : Ty) (p : Part) : Value × Option Issue :=
  match p.outcome.value.convert ty with
  | .ok v => (v, p.outcome.issue)
  | .error _ => (.anything, p.outcome.issue <|> some ⟨p.headLine, .invalidArgument⟩)

/-- A call on evaluated arguments. -/
def Function.onParts (f : Function) (parts : List Part) (line closeLine : Nat) : Outcome :=
  let arity := f.params.length
  if parts.length < arity then .bad closeLine .missingArguments
  else if f.rest.isNone && parts.length > arity then
    .bad ((parts[arity]?.map Part.headLine).getD line) .extraArguments
  else
    let args := parts.mapIdx fun i p =>
      convertArgument (((f.param? i).map Parameter.type).getD .dynamic) p
    match args.findSome? (·.2) with
    | some i => ⟨.anything, some i⟩
    | none => match f.call (args.map (·.1)) with
      | .ok v => .ok v
      | .error (.argument i) => match parts[i]? with
        | some p => .bad p.headLine .invalidArgument
        | none => .bad line (if (f.param? i).isSome then .invalidArgument else .failedCall)
      | .error .whole => .bad line .failedCall

/-- A call by name. -/
def callByName (s : Scope) (name : String) (parts : List Part) (spread : Bool)
    (line closeLine : Nat) : Outcome :=
  if !s.calls then .bad line .callsNotAllowed
  else match Function.find? name with
    | none => .bad line .unknownFunction
    | some f =>
      match if spread then spreadArguments parts else .ok parts with
      | .error o => o
      | .ok parts => f.onParts parts line closeLine

/-- The common type of two branches, and how the value of each gets it. -/
structure BranchTypes where
  type : Ty
  yes : Conversion := identityConversion
  no : Conversion := identityConversion

/-- The common type of two branches: the other one's if one is a plain null, and
open while the type of one is. -/
def branchTypes? (yes no : Value) : Option BranchTypes :=
  match yes, no with
  | .null .dynamic, _ => some { type := no.type, yes := (Value.convert · no.type) }
  | _, .null .dynamic => some { type := yes.type, no := (Value.convert · yes.type) }
  | _, _ =>
    if yes.type.isDynamic || no.type.isDynamic then some { type := .dynamic }
    else match Ty.unifyWith false [yes.type, no.type] with
      | some (type, [yes, no]) => some { type, yes, no }
      | _ => none

/-- A branch that was taken, in the common type. -/
def takenBranch (ty : Ty) (conv : Conversion) (p : Part) : Outcome :=
  match conv p.outcome.value with
  | .ok v => ⟨v, p.outcome.issue⟩
  | .error _ => ⟨.unknown ty, p.outcome.issue <|> some ⟨p.line, .branchTypes⟩⟩

/-- The lower of two bounds from below; the bound is included if one of them does. -/
def lowerOf (x y : Number × Bool) : Number × Bool :=
  if x.1.lt y.1 then x else if x.1.sameAs y.1 then (y.1, x.2 || y.2) else y

/-- The higher of two bounds from above; the bound is included if one of them does. -/
def higherOf (x y : Number × Bool) : Number × Bool :=
  if y.1.lt x.1 then x else if x.1.sameAs y.1 then (y.1, x.2 || y.2) else y

/-- What is known of a conditional of type `ty` while its condition is not: numbers
and lengths lie between those of the branches. -/
def eitherBranch (ty : Ty) (yes no : Value) : Value :=
  let notNull := yes.isNeverNull && no.isNeverNull
  if yes.isNull && no.isNull then .null ty
  else match yes.type, no.type with
    | .number, .number => .ofHint .number
        { notNull
          low := some (lowerOf yes.lowBound no.lowBound)
          high := some (higherOf yes.highBound no.highBound) }
    | t, u =>
      if t.isCollection && t == u then .ofHint ty
        { notNull
          minLength := min yes.lengthBounds.1 no.lengthBounds.1
          maxLength := max yes.lengthBounds.2 no.lengthBounds.2 }
      else if notNull then .unknownNotNull ty
      else .unknown ty

/-- A conditional on evaluated parts. -/
def choose (condition yes no : Part) : Outcome :=
  match branchTypes? yes.outcome.value no.outcome.value with
  | none => .bad yes.line .branchTypes
  | some ⟨ty, convYes, convNo⟩ =>
    let c := condition.outcome
    let refuse (why : Complaint) : Outcome :=
      ⟨.unknown ty, c.issue <|> some ⟨condition.line, why⟩⟩
    if c.value.isNull then refuse .nullCondition
    else if !c.value.isKnown then ⟨eitherBranch ty yes.outcome.value no.outcome.value, c.issue⟩
    else match c.value.convert .bool with
      | .ok b =>
        (if b.isTrue then takenBranch ty convYes yes else takenBranch ty convNo no).after c.issue
      | .error _ => refuse .conditionType

/-- The text of a part; `none` while it is not known. -/
def partText (p : Part) : Except Issue (Option String) :=
  let v := p.outcome.value
  let refuse := Except.error ⟨p.line, .notAText⟩
  if v.isNull then refuse
  else if !v.isKnown then .ok none
  else match v.convert .string with
    | .ok (.string s) => .ok (some s)
    | _ => refuse

/-- A text in the making: what is written, whether all parts so far are known, and
the first issue. -/
structure TextState where
  text : String := ""
  known : Bool := true
  issue : Option Issue := none

/-- Adds a part. Behind an issue or a part that is not known nothing is written. -/
def TextState.add (st : TextState) (p : Part) : TextState :=
  let issue := st.issue <|> p.outcome.issue
  match partText p with
  | .error i => { st with issue := issue <|> some i }
  | .ok none => { st with known := false, issue }
  | .ok (some s) =>
    { st with text := if st.known && issue.isNone then st.text ++ s else st.text, issue }

/-- The known start of a text is kept up to this many bytes. -/
def longestStart : Nat := 128

/-- A text put together from parts. While a part is not known, the text in front of
it is. -/
def concatenate (parts : List Part) : Outcome :=
  let st := parts.foldl TextState.add {}
  if st.known then ⟨.text st.text, st.issue⟩
  else
    let front := String.ofList (Text.takeBytes longestStart st.text.toList)
    let torn := front.utf8ByteSize < longestStart && front ≠ st.text
    let start := if st.issue.isSome then "" else Text.knownStart front torn
    ⟨.ofHint .string { notNull := true, start }, st.issue⟩

/-- The key of an item: a bare word is a name. -/
def keyOutcome (key : Expr) (evaluated : Outcome) : Outcome :=
  match key with
  | .reference _ (_ :: _) line => .bad line .ambiguousKey
  | key => match key.word? with
    | some w => .ok (.text w)
    | none => evaluated

/-- The name an item is stored under, if it is known. -/
def keyName (key : Outcome) (keyLine valueLine : Nat) : Except Issue (Option String) :=
  if key.issue.isSome then .ok none
  else if key.value.isNull then .error ⟨valueLine, .nullKey⟩
  else match key.value.convert .string with
    | .ok (.string s) => .ok (some s)
    | .ok _ => .ok none
    | .error _ => .error ⟨keyLine, .keyType⟩

/-- An object from evaluated keys and values. It is open while a key is. -/
def construct (items : List (Part × Part)) : Outcome :=
  let named := items.map fun (k, v) => (keyName k.outcome k.line v.line, k.outcome.issue, v.outcome)
  let issue := named.findSome? fun (name, keyIssue, value) =>
    keyIssue <|> value.issue <|> match name with
      | .error i => some i
      | .ok _ => none
  match named.mapM fun (name, _, value) => (name.toOption.bind id).map fun n => (n, value.value) with
  | some attrs => ⟨.ofAttrs attrs, issue⟩
  | none => ⟨.anything, issue⟩

/-- Checks that a loop can go over its source, as far as the type of that is known. -/
def loopSource (source : Part) : Except Outcome Value :=
  let v := source.outcome.value
  let issue := source.outcome.issue
  if v.isNull then .error ⟨.anything, issue <|> some ⟨source.line, .nullIteration⟩⟩
  else match v.type with
    | .dynamic => .error ⟨.anything, issue⟩
    | .bool | .number | .string =>
      .error ⟨.anything, issue <|> some ⟨source.line, .notIterable⟩⟩
    | _ => .ok v

/-- A look at the condition before the loop starts, while the elements are still
open. -/
def loopConditionIssue (early : Part) : Option Issue :=
  let c := early.outcome
  c.issue <|>
    if c.value.isNull then some ⟨early.line, .loopConditionNull⟩
    else match c.value.convert .bool with
      | .ok _ => none
      | .error _ => some ⟨early.line, .loopCondition⟩

/-- The elements that a loop goes over, or its outcome if it does not start: the
source does not fit, the condition cannot be one, or the source is not known. -/
def loopElements (source early : Part) : Except Outcome (List (Value × Value)) := do
  let v ← loopSource source
  match loopConditionIssue early with
  | some i => throw ⟨.anything, source.outcome.issue <|> some i⟩
  | none => if v.isKnown then return v.elements else throw ⟨.anything, source.outcome.issue⟩

/-- Whether an element is taken; `none` while that is open or at an issue. A
condition that cannot be one is an issue only while the result is `known`; with
`openFirst` an unknown condition is not looked at closer. -/
def included (openFirst known : Bool) (condition : Part) : Option Bool × Option Issue :=
  let c := condition.outcome
  let refuse := (none, c.issue <|> if known then some ⟨condition.line, .loopCondition⟩ else none)
  if c.value.isNull then refuse
  else if openFirst && !c.value.isKnown then (none, c.issue)
  else match c.value.convert .bool with
    | .error _ => refuse
    | .ok (.bool b) => (some b, c.issue)
    | .ok _ => (none, c.issue)

/-- The progress of a loop: what was collected, whether all of it is known, and
the first issue. -/
structure LoopState (α : Type) where
  items : List α
  known : Bool := true
  issue : Option Issue := none

/-- A loop that makes a tuple. `run` evaluates condition and item for an
element. -/
def runTupleLoop (source early : Part) (run : Value → Value → Part × Part) : Outcome :=
  match loopElements source early with
  | .error o => o
  | .ok elements =>
    let st := elements.foldl (fun (st : LoopState Value) (k, v) =>
      let (cond, item) := run k v
      match included true st.known cond with
      | (some true, i) =>
        { st with
          items := item.outcome.value :: st.items
          issue := st.issue <|> i <|> item.outcome.issue }
      | (some false, i) => { st with issue := st.issue <|> i }
      | (none, i) => { st with known := false, issue := st.issue <|> i })
      { items := [], issue := source.outcome.issue }
    if st.known then ⟨.tuple st.items.reverse, st.issue⟩ else ⟨.anything, st.issue⟩

/-- The key of a loop that makes an object. A key that cannot be one is an issue
only while the result is `known`. -/
def loopKeyName (known : Bool) (key : Part) : Option String × Option Issue :=
  let k := key.outcome
  let refuse := (none, k.issue <|> if known then some ⟨key.line, .loopKey⟩ else none)
  if k.value.isNull then refuse
  else if !k.value.isKnown then (none, k.issue)
  else match k.value.convert .string with
    | .ok (.string s) => (some s, k.issue)
    | _ => refuse

/-- Adds an attribute in the order of first use; in a grouped loop the values of
one key collect. -/
def addAttr (k : String) (v : Value) : List (String × List Value) → List (String × List Value)
  | [] => [(k, [v])]
  | (k', vs) :: rest => if k = k' then (k, vs ++ [v]) :: rest else (k', vs) :: addAttr k v rest

/-- A loop that makes an object. `run` evaluates condition, key and value. -/
def runObjectLoop (grouped : Bool) (source early : Part)
    (run : Value → Value → Part × Part × Part) : Outcome :=
  match loopElements source early with
  | .error o => o
  | .ok elements =>
    let st := elements.foldl (fun (st : LoopState (String × List Value)) (k, v) =>
      let (cond, key, item) := run k v
      match included false st.known cond with
      | (some false, i) => { st with issue := st.issue <|> i }
      | (none, i) => { st with known := false, issue := st.issue <|> i }
      | (some true, i) =>
        match loopKeyName st.known key with
        | (none, j) => { st with known := false, issue := st.issue <|> i <|> j }
        | (some name, j) =>
          let twice := !grouped && st.items.any (·.1 = name)
          let dup := if twice then some ⟨key.line, .duplicateKey⟩ else none
          { st with
            items := if twice then st.items else addAttr name item.outcome.value st.items
            issue := st.issue <|> i <|> j <|> item.outcome.issue <|> dup })
      { items := [], issue := source.outcome.issue }
    if !st.known then ⟨.anything, st.issue⟩
    else
      let attrs := st.items.map fun (k, vs) =>
        (k, if grouped then .tuple vs else vs.head?.getD .anything)
      ⟨.ofAttrs attrs, st.issue⟩

/-- The texts of a loop, one after the other. An item that is no text is an issue and
left out; at an item that is not known the text is open. -/
def joinItems (line : Nat) (text : String) (issue : Option Issue) : List Value → Outcome
  | [] => ⟨.text text, issue⟩
  | v :: vs =>
    let refuse := joinItems line text (issue <|> some ⟨line, .notAText⟩) vs
    if v.isNull then refuse
    else if v.type.isDynamic then ⟨.unknown .string, issue⟩
    else match v.convert .string with
      | .ok (.string s) => joinItems line (text ++ s) issue vs
      | .ok _ => ⟨.unknown .string, issue⟩
      | .error _ => refuse

/-- The text of a loop. -/
def joinTexts (loop : Part) : Outcome :=
  match loop.outcome.value with
  | .tuple vs => joinItems loop.line "" loop.outcome.issue vs
  | _ => ⟨.unknown .string, loop.outcome.issue⟩

/-- The type that a splat over a value has, found by applying `each` to elements of
which nothing but the type is known. -/
def splatType (ty : Ty) (each : Value → Outcome) : Ty × Option Issue :=
  match ty with
  | .list t | .set t =>
    let o := each (.unknown t)
    (.list o.value.type, o.issue)
  | .tuple ts =>
    let os := ts.map fun t => each (.unknown t)
    (.tuple (os.map fun o => o.value.type), os.findSome? Outcome.issue)
  | _ => (.dynamic, none)

/-- Applies `each` to the elements of a sequence; `isOpen` says that the sequence
might turn out empty. -/
def splatOver (v : Value) (isOpen : Bool) (eachLine : Nat) (each : Value → Outcome) : Outcome :=
  let (ty, issue) := splatType v.type each
  if !v.isKnown then
    let (lo, hi) := if ty.isList then v.lengthBounds else (0, maxLength)
    ⟨.ofHint ty { notNull := true, minLength := lo, maxLength := hi }, issue⟩
  else
    let os := (Function.itemsOfValue v).map each
    let vs := os.map Outcome.value
    match os.findSome? Outcome.issue with
    | some i => ⟨if isOpen then .anything else .unknown ty, some i⟩
    | none =>
      if isOpen then .ok .anything
      else match ty with
        | .list t =>
          if vs.isEmpty then ⟨.list t [], issue⟩
          else match Value.listOf vs with
            | .ok list => .ok list
            | .error _ => .bad eachLine .mixedSplat
        | _ => .ok (.tuple vs)

/-- Applies `each` to the elements of a value. What is no sequence counts as one
element, and a null as none. -/
def runSplat (source : Part) (eachLine : Nat) (each : Value → Outcome) : Outcome :=
  let v := source.outcome.value
  let isSequence := v.type.isTuple || v.type.isList || v.type.isSet
  if source.outcome.issue.isSome then ⟨.anything, source.outcome.issue⟩
  else if v.isNull then
    if isSequence then .bad source.line .nullSplat else .ok (.tuple [])
  else if v.type.isDynamic then .ok .anything
  else if isSequence then splatOver v false eachLine each
  else splatOver (.tuple [v]) (!v.isNeverNull) eachLine each

namespace Expr

mutual

/-- The value of an expression in a scope. -/
def eval (s : Scope) : Expr → Outcome
  | .literal v _ => .ok v
  | .reference name steps line => s.lookup name steps line
  | .access e steps =>
    let o := eval s e
    (Step.applyAll steps o.value).after o.issue
  | .index coll key line =>
    let c := eval s coll
    let k := eval s key
    (c.value.elementAt k.value line).after (c.issue <|> k.issue)
  | .splat source each _ =>
    runSplat ⟨eval s source, source.line, source.headLine⟩ each.line
      fun v => eval { s with element := v } each
  | .element _ => .ok s.element
  | .call name args spread line closeLine =>
    callByName s name (evalList s args) spread line closeLine
  | .conditional c yes no =>
    choose ⟨eval s c, c.line, c.headLine⟩ ⟨eval s yes, yes.line, yes.headLine⟩
      ⟨eval s no, no.line, no.headLine⟩
  | .unary op e line => op.evaluate (eval s e) line e.line
  | .binary op x y => op.evaluate (eval s x) (eval s y) x.line y.line
  | .template parts _ => concatenate (evalList s parts)
  | .interpolated e _ => eval s e
  | .joined e => joinTexts ⟨eval s e, e.line, e.headLine⟩
  | .tuple items _ =>
    let parts := evalList s items
    ⟨.tuple (parts.map (·.outcome.value)), Part.issue parts⟩
  | .object items _ => construct (evalItems s items)
  | .tupleLoop keyName valueName source value condition _ =>
    let early := s.bind keyName valueName .anything .anything
    runTupleLoop ⟨eval s source, source.line, source.headLine⟩
      ⟨eval early condition, condition.line, condition.headLine⟩
      fun k v =>
        let inside := s.bind keyName valueName k v
        (⟨eval inside condition, condition.line, condition.headLine⟩,
          ⟨eval inside value, value.line, value.headLine⟩)
  | .objectLoop keyName valueName source key value condition grouped _ =>
    let early := s.bind keyName valueName .anything .anything
    runObjectLoop grouped ⟨eval s source, source.line, source.headLine⟩
      ⟨eval early condition, condition.line, condition.headLine⟩
      fun k v =>
        let inside := s.bind keyName valueName k v
        (⟨eval inside condition, condition.line, condition.headLine⟩,
          ⟨eval inside key, key.line, key.headLine⟩,
          ⟨eval inside value, value.line, value.headLine⟩)
  | .parens e _ => eval s e

def evalList (s : Scope) : List Expr → List Part
  | [] => []
  | e :: es => ⟨eval s e, e.line, e.headLine⟩ :: evalList s es

def evalItems (s : Scope) : List (Expr × Expr) → List (Part × Part)
  | [] => []
  | (k, v) :: rest =>
    (⟨keyOutcome k (eval s k), k.line, k.headLine⟩, ⟨eval s v, v.line, v.headLine⟩)
      :: evalItems s rest

end

end Expr

end GraphWalk
