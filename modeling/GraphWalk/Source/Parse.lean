import GraphWalk.Number.Read
import GraphWalk.Source.Document
import GraphWalk.Source.Scan
import GraphWalk.Source.Template

/-!
# Reading documents

`Document.read?` reads a whole file; a text that is not well-formed gives nothing.

Line breaks end arguments and separate the items of objects; between parentheses
and brackets and inside interpolations they do not count. Every reader takes a
flag `breaks` that says which. The readers call each other on what is left of
the text; their fuel bounds the depth of the calls, and between two calls that
read a token there are at most a dozen that read none.
-/

namespace GraphWalk.Source

/-- The tokens ahead. Line breaks at the front are skipped where they do not
count. -/
def ahead (breaks : Bool) (ts : List Token) : List Token :=
  if breaks then ts else ts.dropWhile (·.lexeme = .newline)

/-- The binary operators, in levels of rising strength. -/
def operatorLevels : List (List (Mark × BinaryOp)) :=
  [[(.either, .or)],
    [(.both, .and)],
    [(.equal, .equal), (.notEqual, .notEqual)],
    [(.less, .less), (.lessEqual, .lessEqual), (.greater, .greater),
      (.greaterEqual, .greaterEqual)],
    [(.plus, .add), (.minus, .sub)],
    [(.star, .mul), (.slash, .div), (.percent, .rem)]]

def operatorAt? (level : Nat) (m : Mark) : Option BinaryOp := do
  let ops ← operatorLevels[level]?
  let (_, op) ← ops.find? (·.1 = m)
  return op

/-- A word as an expression: a constant, or a name of the scope. -/
def wordExpr (s : String) (line : Nat) : Expr :=
  match s with
  | "true" => .literal (.bool true) line
  | "false" => .literal (.bool false) line
  | "null" => .literal (.null .dynamic) line
  | s => .reference s [] line

/-- Indexing; a constant key makes a step. -/
def indexed (e key : Expr) (line : Nat) : Expr :=
  match key with
  | .literal v _ => e.extend (.index v line)
  | key => match key.constantText? with
    | some s => e.extend (.index (.string s) line)
    | none => .index e key line

/-- The number in a step that is written like an attribute; fractions are
refused. -/
def numberStep? (s : String) : Option Value :=
  if s.toList.contains '.' then none else (Number.read? s).map .number

/-- The names behind `for`, up to and with the word `in`. -/
def loopNames (breaks : Bool) (ts : List Token) :
    Option (Option String × String × List Token) :=
  let expectIn (ts : List Token) : Option (List Token) :=
    match ahead breaks ts with
    | ⟨.name "in", _⟩ :: ts => some ts
    | _ => none
  match ahead breaks ts with
  | ⟨.name first, _⟩ :: ts =>
    match ahead breaks ts with
    | ⟨.mark .comma, _⟩ :: ts =>
      match ahead breaks ts with
      | ⟨.name second, _⟩ :: ts => (expectIn ts).map fun ts => (some first, second, ts)
      | _ => none
    | ts => (expectIn ts).map fun ts => (none, first, ts)
  | _ => none

/-- The attributes behind a star that follows a point. -/
def starSteps (fuel : Nat) (breaks : Bool) (acc : List Step) (ts : List Token) :
    Option (List Step × List Token) :=
  match fuel, ahead breaks ts with
  | 0, _ => none
  | fuel + 1, ⟨.mark .dot, span⟩ :: ts' =>
    match ahead breaks ts' with
    | ⟨.name n, _⟩ :: rest => starSteps fuel breaks (.attr n span.line :: acc) rest
    | ⟨.number s, _⟩ :: rest => do
      let v ← numberStep? s
      starSteps fuel breaks (.index v span.line :: acc) rest
    | _ => none
  | _, _ => some (acc.reverse, ts)

/-- The name of a function, whose parts are divided by double colons, up to its
opening parenthesis. -/
def callName (fuel : Nat) (breaks : Bool) (name : String) (ts : List Token) :
    Option (String × List Token) :=
  match fuel, ahead breaks ts with
  | 0, _ => none
  | _ + 1, ⟨.mark .parenOpen, _⟩ :: rest => some (name, rest)
  | fuel + 1, ⟨.mark .doubleColon, _⟩ :: rest =>
    match ahead breaks rest with
    | ⟨.name more, _⟩ :: rest => callName fuel breaks (name ++ "::" ++ more) rest
    | _ => none
  | _, _ => none

/-- Whether a name is called. -/
def startsCall (breaks : Bool) (ts : List Token) : Bool :=
  match ahead breaks ts with
  | ⟨.mark .parenOpen, _⟩ :: _ | ⟨.mark .doubleColon, _⟩ :: _ => true
  | _ => false

mutual

/-- A whole expression. -/
def expression (fuel : Nat) (breaks : Bool) (ts : List Token) : Option (Expr × List Token) :=
  match fuel with
  | 0 => none
  | fuel + 1 => do
    let (c, ts) ← binary fuel 0 breaks ts
    match ahead breaks ts with
    | ⟨.mark .question, _⟩ :: ts =>
      let (yes, ts) ← expression fuel breaks ts
      match ahead breaks ts with
      | ⟨.mark .colon, _⟩ :: ts =>
        let (no, ts) ← expression fuel breaks ts
        return (.conditional c yes no, ts)
      | _ => none
    | _ => return (c, ts)

/-- Operators of a level and above; those of one level group to the left. -/
def binary (fuel level : Nat) (breaks : Bool) (ts : List Token) : Option (Expr × List Token) :=
  match fuel with
  | 0 => none
  | fuel + 1 =>
    if level ≥ operatorLevels.length then traversed fuel breaks ts
    else do
      let (left, ts) ← binary fuel (level + 1) breaks ts
      operands fuel level breaks left ts

def operands (fuel level : Nat) (breaks : Bool) (left : Expr) (ts : List Token) :
    Option (Expr × List Token) :=
  match fuel with
  | 0 => none
  | fuel + 1 =>
    match ahead breaks ts with
    | ⟨.mark m, _⟩ :: rest =>
      match operatorAt? level m with
      | some op => do
        let (right, rest) ← binary fuel (level + 1) breaks rest
        operands fuel level breaks (.binary op left right) rest
      | none => some (left, ts)
    | _ => some (left, ts)

/-- A term and the steps behind it. -/
def traversed (fuel : Nat) (breaks : Bool) (ts : List Token) : Option (Expr × List Token) :=
  match fuel with
  | 0 => none
  | fuel + 1 => do
    let (e, ts) ← term fuel breaks ts
    traversals fuel breaks e ts

def traversals (fuel : Nat) (breaks : Bool) (e : Expr) (ts : List Token) :
    Option (Expr × List Token) :=
  match fuel with
  | 0 => none
  | fuel + 1 =>
    match ahead breaks ts with
    | ⟨.mark .dot, span⟩ :: rest =>
      match ahead breaks rest with
      | ⟨.name n, _⟩ :: rest => traversals fuel breaks (e.extend (.attr n span.line)) rest
      | ⟨.number s, _⟩ :: rest => do
        let v ← numberStep? s
        traversals fuel breaks (e.extend (.index v span.line)) rest
      | ⟨.mark .star, _⟩ :: rest => do
        let (steps, rest) ← starSteps fuel breaks [] rest
        let item := Expr.element ((steps.head?.map Step.line).getD span.line)
        let each := if steps.isEmpty then item else .access item steps
        traversals fuel breaks (.splat e each span.line) rest
      | _ => none
    | ⟨.mark .bracketOpen, span⟩ :: rest =>
      match ahead breaks rest with
      | ⟨.mark .star, _⟩ :: rest =>
        match ahead breaks rest with
        | ⟨.mark .bracketClose, _⟩ :: rest => do
          let (each, rest) ← traversals fuel breaks (.element span.line) rest
          return (.splat e each span.line, rest)
        | _ => none
      | rest => do
        let (key, rest) ← expression fuel false rest
        match ahead false rest with
        | ⟨.mark .bracketClose, _⟩ :: rest =>
          traversals fuel breaks (indexed e key span.line) rest
        | _ => none
    | _ => some (e, ts)

def term (fuel : Nat) (breaks : Bool) (ts : List Token) : Option (Expr × List Token) :=
  match fuel with
  | 0 => none
  | fuel + 1 =>
    match ahead breaks ts with
    | ⟨.mark .parenOpen, span⟩ :: ts => do
      let (e, ts) ← expression fuel false ts
      match ahead false ts with
      | ⟨.mark .parenClose, _⟩ :: ts => return (.parens e span.line, ts)
      | _ => none
    | ⟨.number s, span⟩ :: ts => do
      let n ← Number.read? s
      return (.literal (.number n) span.line, ts)
    | ⟨.name s, span⟩ :: ts =>
      if startsCall breaks ts then do
        let (name, ts) ← callName fuel breaks s ts
        let (args, spread, closeLine, ts) ← arguments fuel [] ts
        return (.call name args spread span.line closeLine, ts)
      else some (wordExpr s span.line, ts)
    | ⟨.quoteOpen, span⟩ :: ts => do
      let (ps, ts) ← pieces fuel .quoteClose false [] ts
      let e ← templateOf span.line span.line false ps
      return (e, ts)
    | ⟨.linesOpen flushed, span⟩ :: ts => do
      let (ps, ts) ← pieces fuel .linesClose false [] ts
      let e ← templateOf span.line (span.line + 1) flushed ps
      return (e, ts)
    | ⟨.mark .minus, span⟩ :: ts => do
      let (e, ts) ← traversed fuel breaks ts
      return (.unary .negate e span.line, ts)
    | ⟨.mark .bang, span⟩ :: ts => do
      let (e, ts) ← traversed fuel breaks ts
      return (.unary .not e span.line, ts)
    | ⟨.mark .bracketOpen, span⟩ :: ts =>
      match ahead false ts with
      | ⟨.name "for", _⟩ :: ts => tupleLoop fuel span.line ts
      | ts => do
        let (items, ts) ← tupleItems fuel [] ts
        return (.tuple items span.line, ts)
    | ⟨.mark .braceOpen, span⟩ :: ts =>
      match ahead false ts with
      | ⟨.name "for", _⟩ :: ts => objectLoop fuel span.line ts
      | _ => do
        let (items, ts) ← objectItems fuel [] ts
        return (.object items span.line, ts)
    | _ => none

/-- The arguments of a call, whether the last one is spread, and the line of the
closing parenthesis. -/
def arguments (fuel : Nat) (acc : List Expr) (ts : List Token) :
    Option (List Expr × Bool × Nat × List Token) :=
  match fuel with
  | 0 => none
  | fuel + 1 =>
    match ahead false ts with
    | ⟨.mark .parenClose, span⟩ :: ts => some (acc.reverse, false, span.line, ts)
    | ts => do
      let (e, ts) ← expression fuel false ts
      match ahead false ts with
      | ⟨.mark .parenClose, span⟩ :: ts => return ((e :: acc).reverse, false, span.line, ts)
      | ⟨.mark .ellipsis, _⟩ :: ts =>
        match ahead false ts with
        | ⟨.mark .parenClose, span⟩ :: ts => return ((e :: acc).reverse, true, span.line, ts)
        | _ => none
      | ⟨.mark .comma, _⟩ :: ts => arguments fuel (e :: acc) ts
      | _ => none

def tupleItems (fuel : Nat) (acc : List Expr) (ts : List Token) :
    Option (List Expr × List Token) :=
  match fuel with
  | 0 => none
  | fuel + 1 =>
    match ahead false ts with
    | ⟨.mark .bracketClose, _⟩ :: ts => some (acc.reverse, ts)
    | ts => do
      let (e, ts) ← expression fuel false ts
      match ahead false ts with
      | ⟨.mark .bracketClose, _⟩ :: ts => return ((e :: acc).reverse, ts)
      | ⟨.mark .comma, _⟩ :: ts => tupleItems fuel (e :: acc) ts
      | _ => none

def objectItems (fuel : Nat) (acc : List (Expr × Expr)) (ts : List Token) :
    Option (List (Expr × Expr) × List Token) :=
  match fuel with
  | 0 => none
  | fuel + 1 =>
    match ts with
    | ⟨.newline, _⟩ :: ts => objectItems fuel acc ts
    | ⟨.mark .braceClose, _⟩ :: ts => some (acc.reverse, ts)
    | ts => do
      let (key, ts) ← expression fuel true ts
      match ts with
      | ⟨.mark m, _⟩ :: ts =>
        if m ≠ .assign ∧ m ≠ .colon then none
        else
          let (value, ts) ← expression fuel true ts
          let acc := (key, value) :: acc
          match ts with
          | ⟨.mark .braceClose, _⟩ :: ts => return (acc.reverse, ts)
          | ⟨.mark .comma, _⟩ :: ts | ⟨.newline, _⟩ :: ts => objectItems fuel acc ts
          | _ => none
      | _ => none

/-- An optional condition at the end of a loop. -/
def condition (fuel line : Nat) (ts : List Token) : Option (Expr × List Token) :=
  match fuel with
  | 0 => none
  | fuel + 1 =>
    match ahead false ts with
    | ⟨.name "if", _⟩ :: ts => expression fuel false ts
    | ts => some (.literal (.bool true) line, ts)

def tupleLoop (fuel line : Nat) (ts : List Token) : Option (Expr × List Token) :=
  match fuel with
  | 0 => none
  | fuel + 1 => do
    let (keyName, valueName, ts) ← loopNames false ts
    let (source, ts) ← expression fuel false ts
    match ahead false ts with
    | ⟨.mark .colon, _⟩ :: ts =>
      let (value, ts) ← expression fuel false ts
      let (cond, ts) ← condition fuel line ts
      match ahead false ts with
      | ⟨.mark .bracketClose, _⟩ :: ts =>
        return (.tupleLoop keyName valueName source value cond line, ts)
      | _ => none
    | _ => none

def objectLoop (fuel line : Nat) (ts : List Token) : Option (Expr × List Token) :=
  match fuel with
  | 0 => none
  | fuel + 1 => do
    let (keyName, valueName, ts) ← loopNames false ts
    let (source, ts) ← expression fuel false ts
    match ahead false ts with
    | ⟨.mark .colon, _⟩ :: ts =>
      let (key, ts) ← expression fuel false ts
      match ahead false ts with
      | ⟨.mark .arrow, _⟩ :: ts =>
        let (value, ts) ← expression fuel false ts
        let (grouped, ts) := match ahead false ts with
          | ⟨.mark .ellipsis, _⟩ :: ts => (true, ts)
          | ts => (false, ts)
        let (cond, ts) ← condition fuel line ts
        match ahead false ts with
        | ⟨.mark .braceClose, _⟩ :: ts =>
          return (.objectLoop keyName valueName source key value cond grouped line, ts)
        | _ => none
      | _ => none
    | _ => none

/-- The pieces of a text up to its end; `acc` holds the last one first. With
`trim` blanks at the front of the next literal are dropped. -/
def pieces (fuel : Nat) (closing : Lexeme) (trim : Bool) (acc : List Piece) (ts : List Token) :
    Option (List Piece × List Token) :=
  match fuel, ts with
  | 0, _ | _, [] => none
  | fuel + 1, ⟨l, span⟩ :: ts =>
    if l = closing then some (acc.reverse, ts)
    else match l with
      | .piece s =>
        pieces fuel closing false (.literal (if trim then Text.trimLeft s else s) span.line :: acc) ts
      | .interpolation trimBefore => do
        let (e, ts) ← expression fuel false ts
        sequenceRest fuel closing trimBefore acc (.value e) ts
      | .directive trimBefore =>
        match ahead false ts with
        | ⟨.name "if", _⟩ :: ts => do
          let (c, ts) ← expression fuel false ts
          sequenceRest fuel closing trimBefore acc (.ifOpen c span.line) ts
        | ⟨.name "else", _⟩ :: ts => sequenceRest fuel closing trimBefore acc .otherwise ts
        | ⟨.name "endif", _⟩ :: ts => sequenceRest fuel closing trimBefore acc .ifClose ts
        | ⟨.name "for", _⟩ :: ts => do
          let (keyName, valueName, ts) ← loopNames false ts
          let (source, ts) ← expression fuel false ts
          sequenceRest fuel closing trimBefore acc
            (.forOpen keyName valueName source span.line) ts
        | ⟨.name "endfor", _⟩ :: ts => sequenceRest fuel closing trimBefore acc .forClose ts
        | _ => none
      | _ => none

/-- The end of an interpolation or directive, and the pieces behind it. -/
def sequenceRest (fuel : Nat) (closing : Lexeme) (trimBefore : Bool) (acc : List Piece)
    (p : Piece) (ts : List Token) : Option (List Piece × List Token) :=
  match fuel with
  | 0 => none
  | fuel + 1 =>
    let acc := match acc with
      | q :: more => (if trimBefore then q.trimEnd else q) :: more
      | [] => []
    match ahead false ts with
    | ⟨.sequenceEnd trimAfter, _⟩ :: ts => pieces fuel closing trimAfter (p :: acc) ts
    | _ => none

end

/-- The literal pieces of a label, up to its closing quote. -/
def labelText (acc : String) : List Token → Option (String × Span × List Token)
  | ⟨.piece s, _⟩ :: ts => labelText (acc ++ s) ts
  | ⟨.quoteClose, span⟩ :: ts => some (acc, span, ts)
  | _ => none

/-- The labels of a block and the line of its opening brace. -/
def labels (fuel : Nat) (acc : List Label) (ts : List Token) :
    Option (List Label × Nat × List Token) :=
  match fuel, ts with
  | 0, _ => none
  | _ + 1, ⟨.mark .braceOpen, span⟩ :: ts => some (acc.reverse, span.line, ts)
  | fuel + 1, ⟨.name s, span⟩ :: ts => labels fuel (⟨s, span⟩ :: acc) ts
  | fuel + 1, ⟨.quoteOpen, first⟩ :: ts => do
    let (s, last, ts) ← labelText "" ts
    labels fuel (⟨s, first.through last⟩ :: acc) ts
  | _, _ => none

/-- The end of an argument or block: a line break or the end of the text. -/
def lineEnd : List Token → Option (List Token)
  | [] => some []
  | ⟨.newline, _⟩ :: ts => some ts
  | _ => none

/-- The arguments and blocks up to the end of the text or, when `nested`, up to
the closing brace. An argument must not be given twice. -/
def items (fuel : Nat) (nested : Bool) (args : List Argument) (blocks : List Block)
    (ts : List Token) : Option (List Argument × List Block × List Token) :=
  match fuel with
  | 0 => none
  | fuel + 1 =>
    match ts with
    | [] => if nested then none else some (args.reverse, blocks.reverse, [])
    | ⟨.mark .braceClose, _⟩ :: ts =>
      if nested then some (args.reverse, blocks.reverse, ts) else none
    | ⟨.newline, _⟩ :: ts => items fuel nested args blocks ts
    | ⟨.name s, span⟩ :: ⟨.mark .assign, _⟩ :: ts => do
      let (e, ts) ← expression fuel true ts
      let ts ← lineEnd ts
      if args.any (·.name = s) then none
      else items fuel nested (⟨s, span, e⟩ :: args) blocks ts
    | ⟨.name s, span⟩ :: ts => do
      let (ls, openLine, ts) ← labels fuel [] ts
      let (bodyLine, inside, nestedBlocks, ts) ← match ts with
        | ⟨.newline, _⟩ :: _ | ⟨.mark .braceClose, _⟩ :: _ =>
          (items fuel true [] [] ts).map fun found => (openLine, found)
        | ⟨.name a, aSpan⟩ :: ⟨.mark .assign, _⟩ :: ts => do
          let (e, ts) ← expression fuel true ts
          match ts with
          | ⟨.mark .braceClose, _⟩ :: ts => some (aSpan.line, [⟨a, aSpan, e⟩], [], ts)
          | _ => none
        | _ => none
      let ts ← lineEnd ts
      items fuel nested args (.mk s span ls openLine bodyLine inside nestedBlocks :: blocks) ts
    | _ => none

/-- Reads a source text as a document. -/
def Document.read? (text : String) : Option Document := do
  let ts ← scan text
  let (args, blocks, _) ← items (20 * (ts.length + 2)) false [] [] ts
  return ⟨1, args, blocks⟩

end GraphWalk.Source
