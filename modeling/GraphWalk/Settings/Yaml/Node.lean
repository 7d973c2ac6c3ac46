import GraphWalk.Settings.Yaml.Resolve
import GraphWalk.Settings.Yaml.Scanner

/-!
# Documents as trees

A node is a text, a sequence, a mapping or a reference to an anchored node. Only the
first document of a stream is read; what follows it need not even be well formed.
-/

namespace GraphWalk.Yaml

inductive Node where
  | scalar (line : Nat) (tag text : String)
  | sequence (line : Nat) (tag : String) (items : List Node)
  | mapping (line : Nat) (tag : String) (pairs : List (Node × Node))
  /-- A reference; there is no target if the reference is part of it. -/
  | reference (line : Nat) (name : String) (target : Option Node)
deriving Inhabited

/-- What is known while a document is read. -/
structure Source where
  scanner : Scanner
  /-- The handles of tags and what they stand for. -/
  handles : List (String × String)
  /-- The anchors, the newest first: the number of the node's first token, and the node
  once it is complete. -/
  anchors : List (String × Nat × Option Node)
deriving Inhabited

abbrev Reader (α : Type) := StateT Source (Except Fault) α

namespace Reader

def peek : Reader Token := do
  let s ← get
  let (t, scanner) ← s.scanner.peek
  set { s with scanner }
  return t

def skip : Reader Unit :=
  modify fun s => { s with scanner := { s.scanner with taken := s.scanner.taken + 1 } }

/-- The token behind the next one. -/
def following : Reader Token := do
  skip
  peek

def fail {α : Type} (problem : Problem) (context place : Mark) : Reader α :=
  throw (.parsing problem context place)

/-- The number of the next token. -/
def position : Reader Nat := do return (← get).scanner.taken

def declare (name : Option String) (number : Nat) (node : Option Node) : Reader Unit :=
  match name with
  | none => pure ()
  | some n => modify fun s => { s with anchors := (n, number, node) :: s.anchors }

/-- Completes the anchored node that starts at a token. -/
def complete (name : Option String) (number : Nat) (node : Node) : Reader Unit :=
  if name.isNone then pure ()
  else modify fun s => { s with anchors := s.anchors.map fun (n, k, old) =>
    if k = number && old.isNone then (n, k, some node) else (n, k, old) }

/-- The node that a reference names. -/
def referenceTo (line : Nat) (name : String) : Reader Node := do
  match (← get).anchors.find? (·.1 = name) with
  | none => throw (.plain (.unknownAnchor name))
  | some (_, _, target) => return .reference line name target

/-! ## Properties of nodes -/

/-- The anchor and the tag in front of a node, in either order, and the first token
behind them. -/
structure Properties where
  start : Mark
  anchor : Option String
  tag : Option (String × String × Mark)
  token : Token

def properties : Reader Properties := do
  let t ← peek
  match t.kind with
  | .anchor name => do
    let u ← following
    match u.kind with
    | .tag handle suffix => do return ⟨t.start, some name, some (handle, suffix, u.start), ← following⟩
    | _ => return ⟨t.start, some name, none, u⟩
  | .tag handle suffix => do
    let u ← following
    match u.kind with
    | .anchor name => do return ⟨t.start, some name, some (handle, suffix, t.start), ← following⟩
    | _ => return ⟨t.start, none, some (handle, suffix, t.start), u⟩
  | _ => return ⟨t.start, none, none, t⟩

/-- The tag in full; empty for none. -/
def fullTag (p : Properties) : Reader String :=
  match p.tag with
  | none => pure ""
  | some (handle, suffix, place) =>
    if handle = "" then pure suffix
    else do
      match (← get).handles.find? (·.1 = handle) with
      | some (_, lead) => return lead ++ suffix
      | none => fail .unknownTagHandle p.start place

/-- The tag of a text: the one that is given, or the one that its form suggests. -/
def scalarTag (given text : String) (plain : Bool) : String :=
  if given ≠ "" && given ≠ "!" then shortTag given
  else if !plain then "!!str"
  else if text = "<<" then "!!merge"
  else (guess true text).1

/-- The tag of a collection. -/
def collectionTag (given fallback : String) : String :=
  if given ≠ "" && given ≠ "!" then shortTag given else fallback

def emptyScalar (m : Mark) : Node := .scalar (m.line + 1) "!!null" ""

/-! ## Nodes -/

mutual

/-- Reads a node. Blocks are admitted if `block`, and a sequence that is not indented
further than its key if `flat`. -/
def node (fuel : Nat) (block flat : Bool) : Reader Node :=
  match fuel with
  | 0 => throw (.plain .nodeExpected)
  | fuel + 1 => do
    let first ← peek
    match first.kind with
    | .reference name => do
      let n ← referenceTo (first.start.line + 1) name
      skip
      return n
    | _ =>
      let number ← position
      let p ← properties
      let tag ← fullTag p
      let line := p.start.line + 1
      let t := p.token
      let collection := fun (read : Reader Node) => do
        declare p.anchor number none
        let n ← read
        complete p.anchor number n
        return n
      if flat && t.kind = .blockEntry then
        collection (do return .sequence line (collectionTag tag "!!seq") (← flatEntries fuel []))
      else match t.kind with
        | .scalar text plain => do
          let n := Node.scalar line (scalarTag tag text plain) text
          declare p.anchor number (some n)
          skip
          return n
        | .flowSequenceStart => collection (do
          skip
          return .sequence line (collectionTag tag "!!seq") (← flowItems fuel t.start true []))
        | .flowMappingStart => collection (do
          skip
          return .mapping line (collectionTag tag "!!map") (← flowPairs fuel t.start true []))
        | .blockSequenceStart =>
          if block then collection (do
            skip
            return .sequence line (collectionTag tag "!!seq") (← blockEntries fuel t.start []))
          else fail .nodeExpected p.start t.start
        | .blockMappingStart =>
          if block then collection (do
            skip
            return .mapping line (collectionTag tag "!!map") (← blockPairs fuel t.start []))
          else fail .nodeExpected p.start t.start
        | _ =>
          if p.anchor.isSome || tag ≠ "" then do
            let n := Node.scalar line (scalarTag tag "" true) ""
            declare p.anchor number (some n)
            return n
          else fail .nodeExpected p.start t.start

/-- The entries of a block sequence that starts at a place. -/
def blockEntries (fuel : Nat) (start : Mark) (out : List Node) : Reader (List Node) :=
  match fuel with
  | 0 => throw (.plain .entryExpected)
  | fuel + 1 => do
    let t ← peek
    match t.kind with
    | .blockEntry => do
      let u ← following
      if u.kind = .blockEntry || u.kind = .blockEnd then
        blockEntries fuel start (emptyScalar t.start :: out)
      else do
        let n ← node fuel true false
        blockEntries fuel start (n :: out)
    | .blockEnd => do
      skip
      return out.reverse
    | _ => fail .entryExpected start t.start

/-- The entries of a sequence that is not indented. -/
def flatEntries (fuel : Nat) (out : List Node) : Reader (List Node) :=
  match fuel with
  | 0 => throw (.plain .entryExpected)
  | fuel + 1 => do
    let t ← peek
    match t.kind with
    | .blockEntry => do
      let u ← following
      if [.blockEntry, .key, .value, .blockEnd].contains u.kind then
        flatEntries fuel (emptyScalar t.start :: out)
      else do
        let n ← node fuel true false
        flatEntries fuel (n :: out)
    | _ => return out.reverse

/-- A node of a block mapping behind a key mark or a colon, which may be missing. -/
def blockPart (fuel : Nat) (mark : Token) : Reader Node :=
  match fuel with
  | 0 => throw (.plain .keyExpected)
  | fuel + 1 => do
    let u ← following
    if [.key, .value, .blockEnd].contains u.kind then return emptyScalar mark.start
    else node fuel true true

/-- The pairs of a block mapping that starts at a place. -/
def blockPairs (fuel : Nat) (start : Mark) (out : List (Node × Node)) :
    Reader (List (Node × Node)) :=
  match fuel with
  | 0 => throw (.plain .keyExpected)
  | fuel + 1 => do
    let t ← peek
    match t.kind with
    | .key => do
      let k ← blockPart fuel t
      let u ← peek
      let v ← if u.kind = .value then blockPart fuel u else pure (emptyScalar u.start)
      blockPairs fuel start ((k, v) :: out)
    | .blockEnd => do
      skip
      return out.reverse
    | _ => fail .keyExpected start t.start

/-- The items of a sequence in brackets that starts at a place. -/
def flowItems (fuel : Nat) (start : Mark) (first : Bool) (out : List Node) :
    Reader (List Node) :=
  match fuel with
  | 0 => throw (.plain .sequenceSeparator)
  | fuel + 1 => do
    let t ← peek
    if t.kind = .flowSequenceEnd then
      skip
      return out.reverse
    let t ← if first then pure t
      else if t.kind = .flowEntry then following
      else fail .sequenceSeparator start t.start
    if t.kind = .flowSequenceEnd then
      skip
      return out.reverse
    else if t.kind = .key then do
      let pair ← flowItemPair fuel t
      flowItems fuel start false (pair :: out)
    else do
      let n ← node fuel false false
      flowItems fuel start false (n :: out)

/-- A mapping of one pair inside a sequence in brackets. -/
def flowItemPair (fuel : Nat) (mark : Token) : Reader Node :=
  match fuel with
  | 0 => throw (.plain .sequenceSeparator)
  | fuel + 1 => do
    let t ← following
    let k ← if [.value, .flowEntry, .flowSequenceEnd].contains t.kind then do
        skip
        pure (emptyScalar t.start)
      else node fuel false false
    let u ← peek
    let v ← if u.kind = .value then do
        let w ← following
        if w.kind = .flowEntry || w.kind = .flowSequenceEnd then pure (emptyScalar w.start)
        else node fuel false false
      else pure (emptyScalar u.start)
    return .mapping (mark.start.line + 1) "!!map" [(k, v)]

/-- The pairs of a mapping in brackets that starts at a place. -/
def flowPairs (fuel : Nat) (start : Mark) (first : Bool) (out : List (Node × Node)) :
    Reader (List (Node × Node)) :=
  match fuel with
  | 0 => throw (.plain .mappingSeparator)
  | fuel + 1 => do
    let t ← peek
    if t.kind = .flowMappingEnd then
      skip
      return out.reverse
    let t ← if first then pure t
      else if t.kind = .flowEntry then following
      else fail .mappingSeparator start t.start
    if t.kind = .flowMappingEnd then
      skip
      return out.reverse
    else if t.kind = .key then do
      let u ← following
      let k ← if [.value, .flowEntry, .flowMappingEnd].contains u.kind
        then pure (emptyScalar u.start)
        else node fuel false false
      let v ← flowValue fuel
      flowPairs fuel start false ((k, v) :: out)
    else do
      let k ← node fuel false false
      let u ← peek
      flowPairs fuel start false ((k, emptyScalar u.start) :: out)

/-- The value of a pair in brackets. -/
def flowValue (fuel : Nat) : Reader Node :=
  match fuel with
  | 0 => throw (.plain .mappingSeparator)
  | fuel + 1 => do
    let t ← peek
    if t.kind = .value then do
      let u ← following
      if u.kind = .flowEntry || u.kind = .flowMappingEnd then return emptyScalar u.start
      else node fuel false false
    else return emptyScalar t.start

end

/-! ## Documents -/

/-- Reads the directives in front of a document. -/
def directives (fuel : Nat) (version : Bool) (handles : List (String × String)) :
    Reader (List (String × String)) :=
  match fuel with
  | 0 => pure handles
  | fuel + 1 => do
    let t ← peek
    match t.kind with
    | .version major minor => do
      if version then fail .secondVersion .start t.start
      if major ≠ 1 || minor ≠ 1 then fail .otherVersion .start t.start
      skip
      directives fuel true handles
    | .tagHandle handle lead => do
      if (handles.find? (·.1 = handle)).isSome then fail .secondTagHandle .start t.start
      skip
      directives fuel version (handles ++ [(handle, lead)])
    | _ => return handles

/-- The handles that need no directive. -/
def commonHandles : List (String × String) := [("!", "!"), ("!!", commonLead)]

/-- Reads the first document, if there is one. -/
def document (fuel : Nat) : Reader (Option Node) := do
  let t ← peek
  if t.kind = .streamStart then skip
  let t ← peek
  match t.kind with
  | .streamEnd => return none
  | .version .. | .tagHandle .. | .documentStart => do
    let handles ← directives fuel false []
    let t ← peek
    if t.kind ≠ .documentStart then fail .documentStart .start t.start
    modify fun s => { s with handles := handles ++ commonHandles }
    let u ← following
    let n ← match u.kind with
      | .version .. | .tagHandle .. | .documentStart | .documentEnd | .streamEnd =>
        pure (emptyScalar u.start)
      | _ => node fuel true false
    let _ ← peek
    return some n
  | _ => do
    modify fun s => { s with handles := commonHandles }
    let n ← node fuel true false
    let _ ← peek
    return some n

end Reader

/-- Whether a character may stand in a document. -/
def isAllowed (c : Char) : Bool :=
  let n := c.toNat
  n = 0x09 || n = 0x0A || n = 0x0D || (0x20 ≤ n && n ≤ 0x7E) || n = 0x85
    || (0xA0 ≤ n && n ≤ 0xD7FF) || (0xE000 ≤ n && n ≤ 0xFFFD && n ≠ 0xFEFF) || 0x10000 ≤ n

/-- Reads the first document of a text. -/
def parse (text : String) : Except Fault (Option Node) :=
  let cs := match text.toList with
    | c :: rest => if c.toNat = 0xFEFF then rest else c :: rest
    | [] => []
  if !cs.all isAllowed then .error (.plain .controlCharacter)
  else ((Reader.document (4 * cs.length + 16)).run ⟨.ofText cs, [], []⟩).map (·.1)

end GraphWalk.Yaml
