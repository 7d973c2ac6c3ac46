import GraphWalk.Settings.Yaml.Node
import GraphWalk.Value.Type

/-!
# The data of a document

A tree becomes data: keys are unique, references are replaced by what they name, and
the pairs of a merged mapping are added where there is no such key. Data of the wrong
kind is reported once for each place, after everything has been read; other problems
end the reading. So does a document that names a few nodes over and over: hardly more
than ninety-nine in a hundred nodes may come from references, and fewer in a very
large document.
-/

namespace GraphWalk.Yaml

inductive Datum where
  | null
  | scalar (v : SettingValue)
  | list (items : List Datum)
  | table (byText : Bool) (pairs : List (Datum × Datum))
deriving Inhabited

namespace Datum

/-- The text of a key that is a text. -/
def keyText? : Datum → Option String
  | .scalar (.text s) => some s
  | _ => none

/-- Whether two keys are the same. Only keys that are no collections are compared. -/
def sameKey : Datum → Datum → Bool
  | .null, .null => true
  | .scalar a, .scalar b => a = b
  | _, _ => false

/-- Whether one key goes before another where a message shows them. Keys of different
kinds stay as they are. -/
def goesBefore : Datum → Datum → Bool
  | .scalar (.text a), .scalar (.text b) => a ≤ b
  | .scalar (.whole a), .scalar (.whole b) => a ≤ b
  | _, _ => true

/-- How a message shows a value. Whole numbers that need a 64th bit are shown in base
sixteen. -/
def shownValue : SettingValue → String
  | .text s => Text.quote s
  | .whole n =>
    if n < Whole.least then toString n
    else "0x" ++ String.ofList (Text.hexPadded 16 n.toNat)
  | .real d =>
    (if d.neg then "-" else "") ++ Number.Layout.render (.general false) d.shortest d.shortest none
  | v => v.toText

mutual

/-- How a message shows data. -/
def shown : Datum → String
  | .null => "interface \x7b\x7d(nil)"
  | .scalar v => shownValue v
  | .list items => "[]interface \x7b\x7d\x7b" ++ ", ".intercalate (shownItems items) ++ "\x7d"
  | .table byText pairs =>
    let shownOnes := (shownPairs pairs).mergeSort fun a b => a.1.goesBefore b.1
    (if byText then "map[string]interface \x7b\x7d\x7b"
      else "map[interface \x7b\x7d]interface \x7b\x7d\x7b")
      ++ ", ".intercalate (shownOnes.map (·.2)) ++ "\x7d"

def shownItems : List Datum → List String
  | [] => []
  | d :: ds => d.shown :: shownItems ds

/-- Every pair with its key in front. -/
def shownPairs : List (Datum × Datum) → List (Datum × String)
  | [] => []
  | (k, v) :: rest => (k, k.shown ++ ":" ++ v.shown) :: shownPairs rest

end

/-- Sets a key. -/
def put (k v : Datum) : List (Datum × Datum) → List (Datum × Datum)
  | [] => [(k, v)]
  | (k', v') :: rest => if k.sameKey k' then (k, v) :: rest else (k', v') :: put k v rest

end Datum

namespace Node

def line : Node → Nat
  | .scalar line .. | .sequence line .. | .mapping line .. | .reference line .. => line

/-- What identifies a key before it is decoded: its kind and its text. -/
def identity : Node → Nat × String
  | .scalar _ _ text => (0, text)
  | .sequence .. => (1, "")
  | .mapping .. => (2, "")
  | .reference _ name _ => (3, name)

/-- The tag of a node, behind its references. -/
def effectiveTag : Nat → Node → String
  | _, .scalar _ tag _ | _, .sequence _ tag _ | _, .mapping _ tag _ => tag
  | 0, .reference .. => ""
  | _ + 1, .reference _ _ none => ""
  | fuel + 1, .reference _ _ (some n) => effectiveTag fuel n

/-- Whether the key of a pair asks for the pairs of other mappings. -/
def isMerge : Node → Bool
  | .scalar _ tag text => text = "<<" && tag = "!!merge"
  | _ => false

/-- What is said about every key that stands twice. -/
def repeats : List (Node × Node) → List String
  | [] => []
  | (k, _) :: rest =>
    (rest.filterMap fun (k', _) =>
      if k.identity = k'.identity then
        some ("line " ++ toString k'.line ++ ": mapping key " ++ Text.quote k'.identity.2
          ++ " already defined at line " ++ toString k.line)
      else none) ++ repeats rest

/-- The start of a long text. -/
def excerpt (text : String) : String :=
  let bytes := Text.bytes text.toList
  if bytes.length > 10 then Text.ofBytes (bytes.take 7) ++ "..." else text

/-- What is said about a node of the wrong kind. -/
def mismatch (n : Node) (wanted : String) : String :=
  let (tag, text) := match n with
    | .scalar _ tag text => (tag, text)
    | .sequence _ tag _ | .mapping _ tag _ => (tag, "")
    | .reference _ name _ => ("", name)
  "line " ++ toString n.line ++ ": cannot unmarshal " ++ tag
    ++ (if tag = "!!seq" || tag = "!!map" then "" else " \x60" ++ excerpt text ++ "\x60")
    ++ " into " ++ wanted

end Node

/-- What has been read so far. -/
structure Progress where
  /-- What was of the wrong kind. -/
  messages : List String
  /-- How many nodes have been visited. -/
  visited : Nat
  /-- How many of them were visited for a reference. -/
  copied : Nat
  /-- How many references lead to the node that is being read. -/
  depth : Nat
deriving Inhabited

namespace Progress

def start : Progress := ⟨[], 0, 0, 0⟩

/-- Up to so many visits, ninety-nine in a hundred may be made for references. -/
def shareFalls : Nat := 400000

/-- From so many visits on, only one in ten may be made for references. -/
def shareLeast : Nat := 4000000

/-- Whether too many visits are made for references. -/
def isExcessive (p : Progress) : Bool :=
  let range := shareLeast - shareFalls
  100 < p.copied && 1000 < p.visited &&
    (if p.visited ≤ shareFalls then 99 * p.visited < 100 * p.copied
    else if shareLeast ≤ p.visited then p.visited < 10 * p.copied
    else p.visited * (99 * range - 89 * (p.visited - shareFalls)) < 100 * range * p.copied)

end Progress

/-- Reading while it is noted what was read. -/
abbrev Decoder (α : Type) := StateT Progress (Except Problem) α

namespace Decoder

def report (messages : List String) : Decoder Unit :=
  modify fun p => { p with messages := p.messages ++ messages }

/-- Notes that a node is visited. -/
def visit : Decoder Unit := do
  modify fun p => { p with
    visited := p.visited + 1
    copied := if p.depth = 0 then p.copied else p.copied + 1 }
  if (← get).isExcessive then throw .tooManyReferences

/-- Reads a node for a reference. -/
def inside {α : Type} (read : Decoder α) : Decoder α := do
  modify fun p => { p with depth := p.depth + 1 }
  let a ← read
  modify fun p => { p with depth := p.depth - 1 }
  return a

/-- The value of a text, and its tag. -/
def scalar (tag text : String) : Decoder (String × Option SettingValue) := do
  let (tag, v) ← (resolve tag text : Except Problem _)
  if tag = "!!binary" then return (tag, some (.text (← (decodeBinary text : Except Problem _))))
  return (tag, v)

mutual

/-- The data of a node; none if it was of the wrong kind. -/
def any (fuel : Nat) (n : Node) : Decoder (Option Datum) :=
  match fuel with
  | 0 => return none
  | fuel + 1 => do
    visit
    match n with
    | .scalar _ tag text => do
      match (← scalar tag text).2 with
      | none => return some .null
      | some v => return some (.scalar v)
    | .sequence _ _ items => do return some (.list (← list fuel items))
    | .mapping _ _ pairs => do
      let byText := pairs.all fun (k, _) =>
        let tag := k.effectiveTag fuel
        tag = "!!str" || tag = "!!merge"
      match ← table fuel byText pairs none [] with
      | none => return none
      | some (pairs, _) => return some (.table byText pairs)
    | .reference _ name none => throw (.anchorInItself name)
    | .reference _ _ (some target) => inside (any fuel target)

def list (fuel : Nat) (items : List Node) : Decoder (List Datum) :=
  match fuel with
  | 0 => return []
  | fuel + 1 => match items with
    | [] => return []
    | n :: rest => do
      let d ← any fuel n
      return d.toList ++ (← list fuel rest)

/-- A key; with `byText` it has to be a text. None leaves the pair out. -/
def key (fuel : Nat) (byText : Bool) (n : Node) : Decoder (Option Datum) :=
  match fuel with
  | 0 => return none
  | fuel + 1 =>
    if !byText then do
      match ← any fuel n with
      | some (.list items) => throw (.collectionKey (Datum.list items).shown)
      | some (.table t pairs) => throw (.collectionKey (Datum.table t pairs).shown)
      | d => return d
    else do
      visit
      match n with
      | .scalar _ tag text => do
        match ← scalar tag text with
        | (_, none) => return none
        | ("!!binary", v) => return v.map .scalar
        | _ => return some (.scalar (.text text))
      | .sequence .. => do
        report [n.mismatch "string"]
        return none
      | .mapping _ _ pairs => do
        let again := Node.repeats pairs
        report (if again.isEmpty then [n.mismatch "string"] else again)
        return none
      | .reference _ name none => throw (.anchorInItself name)
      | .reference _ _ (some target) => inside (key fuel byText target)

/-- Adds the pairs of a mapping to a table. `taken` holds the keys that are not to be
set, if the mapping is merged into another one. -/
def table (fuel : Nat) (byText : Bool) (pairs : List (Node × Node)) (taken : Option (List Datum))
    (out : List (Datum × Datum)) : Decoder (Option (List (Datum × Datum) × Option (List Datum))) :=
  match fuel with
  | 0 => return none
  | fuel + 1 => do
    let again := Node.repeats pairs
    if !again.isEmpty then
      report again
      return none
    let (out, taken) ← entries fuel byText pairs taken out
    match (pairs.filter fun (k, _) => k.isMerge).getLast? with
    | none => return some (out, taken)
    | some (_, source) => do
      let keys ← match taken with
        | some keys => pure keys
        | none => list fuel (pairs.map (·.1))
      let (out, keys) ← merge fuel byText source out keys
      return some (out, taken.map fun _ => keys)

/-- The pairs of a mapping in order, without those that ask for others. -/
def entries (fuel : Nat) (byText : Bool) (pairs : List (Node × Node)) (taken : Option (List Datum))
    (out : List (Datum × Datum)) : Decoder (List (Datum × Datum) × Option (List Datum)) :=
  match fuel with
  | 0 => return (out, taken)
  | fuel + 1 => match pairs with
    | [] => return (out, taken)
    | (k, v) :: rest => do
      if k.isMerge then entries fuel byText rest taken out
      else match ← key fuel byText k with
        | none => entries fuel byText rest taken out
        | some k =>
          if (taken.getD []).any k.sameKey then entries fuel byText rest taken out
          else do
            let taken := taken.map (k :: ·)
            match ← any fuel v with
            | none => entries fuel byText rest taken out
            | some v => entries fuel byText rest taken (Datum.put k v out)

/-- Adds the pairs of a mapping, or of several in a sequence. -/
def merge (fuel : Nat) (byText : Bool) (source : Node) (out : List (Datum × Datum))
    (taken : List Datum) : Decoder (List (Datum × Datum) × List Datum) :=
  match fuel with
  | 0 => return (out, taken)
  | fuel + 1 => match source with
    | .sequence _ _ items => mergeAll fuel byText items out taken
    | source => mergeOne fuel byText source out taken

def mergeOne (fuel : Nat) (byText : Bool) (source : Node) (out : List (Datum × Datum))
    (taken : List Datum) : Decoder (List (Datum × Datum) × List Datum) :=
  match fuel with
  | 0 => return (out, taken)
  | fuel + 1 => match source with
    | .mapping _ _ pairs => do
      visit
      match ← table fuel byText pairs (some taken) out with
      | none => return (out, taken)
      | some (out, taken') => return (out, taken'.getD taken)
    | .reference _ _ (some (.mapping line tag pairs)) => do
      visit
      inside (mergeOne fuel byText (.mapping line tag pairs) out taken)
    | .reference _ name none => throw (.anchorInItself name)
    | _ => throw .mergeValue

def mergeAll (fuel : Nat) (byText : Bool) (sources : List Node) (out : List (Datum × Datum))
    (taken : List Datum) : Decoder (List (Datum × Datum) × List Datum) :=
  match fuel with
  | 0 => return (out, taken)
  | fuel + 1 => match sources with
    | [] => return (out, taken)
    | n :: rest => do
      let (out, taken) ← mergeOne fuel byText n out taken
      mergeAll fuel byText rest out taken

end

end Decoder

/-! ## Settings

The settings are the pairs of the mapping that the first document holds. An empty
document holds none, and a null gives a name without a value. -/

/-- A bound on the depth and the length of what is decoded. -/
def decodingFuel (text : String) : Nat := 64 * text.length + 64

/-- The pairs of the outermost mapping. -/
def topPairs (fuel : Nat) (n : Node) : Decoder (List (Datum × Datum)) := do
  let wanted := "map[string]interface \x7b\x7d"
  -- the document counts as a node too
  Decoder.visit
  Decoder.visit
  match n with
  | .mapping _ _ pairs => do
    match ← Decoder.table fuel true pairs none [] with
    | none => return []
    | some (pairs, _) => return pairs
  | .scalar _ tag text => do
    match (← Decoder.scalar tag text).2 with
    | none => return []
    | some _ => do
      Decoder.report [n.mismatch wanted]
      return []
  | n => do
    Decoder.report [n.mismatch wanted]
    return []

def settingOf : Datum → Option SettingValue
  | .null => none
  | .scalar v => some v
  | .list _ | .table .. => some .compound

/-- Reads settings, or says what is wrong. -/
def read (text : String) : Except String (List (String × Option SettingValue)) :=
  match parse text with
  | .error f => .error ("yaml: " ++ f.message)
  | .ok none => .ok []
  | .ok (some n) => match (topPairs (decodingFuel text) n).run .start with
    | .error p => .error ("yaml: " ++ p.message)
    | .ok (pairs, progress) =>
      if progress.messages.isEmpty then
        .ok (pairs.filterMap fun (k, v) => k.keyText?.map fun k => (k, settingOf v))
      else .error ("yaml: unmarshal errors:\n  " ++ "\n  ".intercalate progress.messages)

end GraphWalk.Yaml
