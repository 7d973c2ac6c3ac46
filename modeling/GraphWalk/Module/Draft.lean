import GraphWalk.Source.Schema

/-!
# Drafts

A draft is a module file with the right shape: every block has its labels and
arguments, and what is constant has been evaluated. Whether it makes sense as a
module is a later question. The blocks of each type are a list of their own, in
source order; the offsets tell how blocks of different types stand to each other.
-/

namespace GraphWalk.Draft

open Source

structure Import where
  line : Nat
  module : String
deriving Repr

structure Global where
  line : Nat
  name : String
  value : Option Expr
  isPrivate : Bool
deriving Repr

structure Field where
  name : String
  type : Option Expr
  default : Option Expr
deriving Repr

/-- An ability that is written with its body. -/
structure Can where
  line : Nat
  offset : Nat
  name : String
  event : Option String
  filter : List String
  native : Option String
  body : Document
deriving Repr

/-- An ability that is only declared. -/
structure Decl where
  line : Nat
  offset : Nat
  name : String
  event : Option String
  filter : List String
  isAbstract : Bool
deriving Repr

/-- An architype of any kind. -/
structure Arch where
  line : Nat
  offset : Nat
  name : String
  extend : List String
  directed : Option Bool
  fields : List Field
  cans : List Can
  decls : List Decl
deriving Repr

structure Impl where
  line : Nat
  kind : String
  arch : String
  ability : String
  native : Option String
  body : Document
deriving Repr

structure Test where
  line : Nat
  name : String
  description : Option String
deriving Repr

structure Node where
  name : String
  arch : String
  fields : Option Expr
deriving Repr

structure Edge where
  name : String
  arch : String
  source : String
  target : String
  fields : Option Expr
  directed : Option Bool
deriving Repr

structure Spawn where
  walker : String
  at_ : String
  args : Option Expr
deriving Repr

structure Graph where
  line : Nat
  name : String
  nodes : List Node
  edges : List Edge
  spawns : List Spawn
deriving Repr

structure File where
  name : Option String
  imports : List Import
  globals : List Global
  objects : List Arch
  nodes : List Arch
  edges : List Arch
  walkers : List Arch
  impls : List Impl
  tests : List Test
  graphs : List Graph
deriving Repr

def readImport (b : Block) : Except Issue Import := do
  b.body.check {}
  return ⟨b.line, b.label 0⟩

def readGlobal (b : Block) : Except Issue Global := do
  let d := b.body
  d.check { optional := ["value", "private"] }
  return ⟨b.line, b.label 0, d.expr? "value", (← d.bool? "private").getD false⟩

def readField (b : Block) : Except Issue Field := do
  b.body.check { optional := ["type", "default"] }
  return ⟨b.label 0, b.body.expr? "type", b.body.expr? "default"⟩

def readCan (b : Block) : Except Issue Can := do
  let d := b.body
  d.check { optional := ["on", "filter", "native"], isOpen := true }
  return ⟨b.line, b.offset, b.label 0, ← d.text? "on", ← d.texts "filter", ← d.text? "native", d⟩

def readDecl (b : Block) : Except Issue Decl := do
  let d := b.body
  d.check { optional := ["on", "filter", "abstract"] }
  return ⟨b.line, b.offset, b.label 0, ← d.text? "on", ← d.texts "filter",
    (← d.bool? "abstract").getD false⟩

def readArch (b : Block) : Except Issue Arch := do
  let d := b.body
  d.check { optional := ["extends", "directed"],
            blocks := [("has", ["name"]), ("can", ["name"]), ("decl", ["name"])] }
  let extend ← d.texts "extends"
  let directed ← d.bool? "directed"
  let fields ← (d.blocksOf "has").mapM readField
  let cans ← (d.blocksOf "can").mapM readCan
  let decls ← (d.blocksOf "decl").mapM readDecl
  return ⟨b.line, b.offset, b.label 0, extend, directed, fields, cans, decls⟩

def readImpl (b : Block) : Except Issue Impl := do
  b.body.check { optional := ["native"], isOpen := true }
  return ⟨b.line, b.label 0, b.label 1, b.label 2, ← b.body.text? "native", b.body⟩

def readTest (b : Block) : Except Issue Test := do
  b.body.check { optional := ["description"] }
  return ⟨b.line, b.label 0, ← b.body.text? "description"⟩

def readNode (b : Block) : Except Issue Node := do
  let d := b.body
  d.check { required := ["arch"], optional := ["fields"] }
  return ⟨b.label 0, ← d.text "arch", d.expr? "fields"⟩

def readEdge (b : Block) : Except Issue Edge := do
  let d := b.body
  d.check { required := ["arch", "from", "to"], optional := ["fields", "directed"] }
  return ⟨b.label 0, ← d.text "arch", ← d.text "from", ← d.text "to", d.expr? "fields",
    ← d.bool? "directed"⟩

def readSpawn (b : Block) : Except Issue Spawn := do
  let d := b.body
  d.check { required := ["at"], optional := ["args"] }
  return ⟨b.label 0, ← d.text "at", d.expr? "args"⟩

def readGraph (b : Block) : Except Issue Graph := do
  let d := b.body
  d.check { blocks := [("node", ["name"]), ("edge", ["name"]), ("spawn", ["walker"])] }
  return ⟨b.line, b.label 0, ← (d.blocksOf "node").mapM readNode,
    ← (d.blocksOf "edge").mapM readEdge, ← (d.blocksOf "spawn").mapM readSpawn⟩

/-- Reads a document as the draft of a module. -/
def read (d : Document) : Except Issue File := do
  d.check
    { optional := ["module"]
      blocks := [("import", ["module"]), ("global", ["name"]), ("object", ["name"]),
        ("node", ["name"]), ("edge", ["name"]), ("walker", ["name"]),
        ("impl", ["kind", "arch", "ability"]), ("test", ["name"]), ("graph", ["name"])] }
  let name ← d.text? "module"
  let imports ← (d.blocksOf "import").mapM readImport
  let globals ← (d.blocksOf "global").mapM readGlobal
  let objects ← (d.blocksOf "object").mapM readArch
  let nodes ← (d.blocksOf "node").mapM readArch
  let edges ← (d.blocksOf "edge").mapM readArch
  let walkers ← (d.blocksOf "walker").mapM readArch
  let impls ← (d.blocksOf "impl").mapM readImpl
  let tests ← (d.blocksOf "test").mapM readTest
  let graphs ← (d.blocksOf "graph").mapM readGraph
  return ⟨name, imports, globals, objects, nodes, edges, walkers, impls, tests, graphs⟩

end GraphWalk.Draft
