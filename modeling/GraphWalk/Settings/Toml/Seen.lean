import GraphWalk.Settings.Toml.Figure
import GraphWalk.Settings.Toml.Item

/-!
# Keys that may stand only once

A key is given a value once, and a table has one header. Tables that come about by
dotted keys are closed when the next header is read.
-/

namespace GraphWalk.Toml

/-- What is known about a key and the keys below it. -/
inductive Entry where
  | mk (kind : EntryKind) (explicit byKey : Bool) (children : List (String × Entry))
deriving Inhabited

namespace Entry

def kind : Entry → EntryKind
  | .mk kind .. => kind

/-- Whether the table has had its header. -/
def explicit : Entry → Bool
  | .mk _ explicit .. => explicit

def children : Entry → List (String × Entry)
  | .mk _ _ _ children => children

def withChildren : Entry → List (String × Entry) → Entry
  | .mk kind explicit byKey _, children => .mk kind explicit byKey children

def find? (e : Entry) (key : String) : Option Entry :=
  (e.children.find? (·.1 = key)).map (·.2)

/-- Sets the entry of a key. -/
def set (e : Entry) (key : String) (child : Entry) : Entry :=
  e.withChildren ((e.children.filter (·.1 ≠ key)) ++ [(key, child)])

/-- An empty table. -/
def root : Entry := .mk .table false false []

mutual

/-- Closes the tables below that came about by dotted keys. -/
def close : Entry → Entry
  | .mk kind explicit byKey children => .mk kind explicit byKey (closeAll children)

def closeAll : List (String × Entry) → List (String × Entry)
  | [] => []
  | (k, .mk kind explicit byKey children) :: rest =>
    (k, .mk kind (explicit || byKey) false (closeAll children)) :: closeAll rest

end

/-- Changes the entry at the end of a path. -/
def modifyAt (f : Entry → Entry) : List String → Entry → Entry
  | [], e => f e
  | k :: ks, e => match e.find? k with
    | some child => e.set k (modifyAt f ks child)
    | none => e

/-- Adds a pair below an entry. -/
def addPair : List String → Entry → Except Problem Entry
  | [], e => .ok e
  | [k], e => match e.find? k with
    | some _ => .error (.keyTwice k)
    | none => .ok (e.set k (.mk .value false true []))
  | k :: ks, e => match e.find? k with
    | none => do return e.set k (← addPair ks (.mk .table false true []))
    | some child =>
      if child.kind ≠ .table then .error (.notTable k child.kind)
      else if child.explicit then .error (.tableClosed k)
      else do return e.set k (← addPair ks child)

/-- Adds the header of a table. -/
def addTable : List String → Entry → Except Problem Entry
  | [], e => .ok e
  | [k], e => match e.find? k with
    | none => .ok (e.set k (.mk .table true false []))
    | some (.mk kind explicit byKey children) =>
      if kind ≠ .table then .error (.tableExpected k kind)
      else if explicit then .error (.tableTwice k)
      else .ok (e.set k (.mk kind true byKey children))
  | k :: ks, e => match e.find? k with
    | none => do return e.set k (← addTable ks (.mk .table false false []))
    | some child =>
      if child.kind = .value then .error (.notTable k child.kind)
      else do return e.set k (← addTable ks child)

/-- Adds the header of one more table in an array, which starts without keys. -/
def addArrayTable : List String → Entry → Except Problem Entry
  | [], e => .ok e
  | [k], e => match e.find? k with
    | none => .ok (e.set k (.mk .arrayTable true false []))
    | some child =>
      if child.kind ≠ .arrayTable then .error (.notArrayTable k child.kind)
      else .ok (e.set k (child.withChildren []))
  | k :: ks, e => match e.find? k with
    | none => do return e.set k (← addArrayTable ks (.mk .table false false []))
    | some child =>
      if child.kind = .value then .error (.notTable k child.kind)
      else do return e.set k (← addArrayTable ks child)

/-- Adds a pair below the entry at the end of a path. -/
def addPairAt (key : List String) : List String → Entry → Except Problem Entry
  | [], e => e.addPair key
  | k :: ks, e => match e.find? k with
    | some child => do return e.set k (← addPairAt key ks child)
    | none => .ok e

end Entry

mutual

/-- Finds keys that stand twice in the tables of a value. -/
def checkKeys : Item → Except Problem Unit
  | .array items => checkKeysOf items
  | .table pairs => checkTable .root pairs
  | _ => .ok ()

def checkKeysOf : List Item → Except Problem Unit
  | [] => .ok ()
  | i :: rest => do
    checkKeys i
    checkKeysOf rest

def checkTable (e : Entry) : List (List String × Item) → Except Problem Unit
  | [] => .ok ()
  | (key, i) :: rest => do
    let e ← e.addPair key
    checkKeys i
    checkTable e rest

end

/-- The keys so far, and the table whose pairs are being read. -/
structure Seen where
  root : Entry
  current : List String
deriving Inhabited

namespace Seen

def empty : Seen := ⟨.root, []⟩

def add (s : Seen) : Line → Except Problem Seen
  | .pair key value => do
    let root ← s.root.addPairAt key s.current
    checkKeys value
    return { s with root }
  | .table key => do
    return ⟨← (s.root.modifyAt Entry.close s.current).addTable key, key⟩
  | .arrayTable key => do
    return ⟨← (s.root.modifyAt Entry.close s.current).addArrayTable key, key⟩

end Seen

/-! ## Settings

The settings are the keys of the outermost table. A key of another table, a dotted
key, an array and a table in braces give compound values. Lines are judged one after
the other: first as a line, then by their keys, then by their value. -/

/-- What a line sets. -/
def settingOf (current : List String) : Line → Except Problem (Option (String × SettingValue))
  | .pair key item => do
    let v ← item.value
    match current, key with
    | [], [k] => return some (k, v)
    | [], k :: _ => return some (k, .compound)
    | _, _ => return none
  | .table key | .arrayTable key => return key.head?.map fun k => (k, .compound)

/-- Sets a key, which keeps its place if it is there already. -/
def put (k : String) (v : SettingValue) :
    List (String × SettingValue) → List (String × SettingValue)
  | [] => [(k, v)]
  | (k', v') :: rest => if k = k' then (k, v) :: rest else (k', v') :: put k v rest

/-- Reads lines one after the other. -/
def readLines : Nat → Seen → List (String × SettingValue) → List Char →
    Except Problem (List (String × SettingValue))
  | 0, _, out, _ => .ok out
  | fuel + 1, seen, out, cs => do
    let (line, cs) ← readLineOf cs
    let (seen, out) ← match line with
      | none => pure (seen, out)
      | some line => do
        let next ← seen.add line
        match ← settingOf next.current line with
        | some (k, v) => pure (next, put k v out)
        | none => pure (next, out)
    if cs.isEmpty then return out
    let cs ← readBreak cs
    if cs.isEmpty then return out
    readLines fuel seen out cs

/-- Reads settings, or says what is wrong. -/
def read (text : String) : Except String (List (String × SettingValue)) :=
  let cs := text.toList
  match readLines (cs.length + 1) .empty [] cs with
  | .error p => .error ("toml: " ++ p.message)
  | .ok kvs => .ok kvs

end GraphWalk.Toml
