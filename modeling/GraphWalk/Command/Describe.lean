import GraphWalk.Snapshot.Basic
import GraphWalk.Text.Split
import GraphWalk.World.Seed

/-!
# Overviews

Tables of what a world has loaded and of the snapshots of an archive.

Text with tabs is laid out in columns. A cell that a tab ends belongs to a column;
the last cell of a line does not. A column reaches over neighbouring lines that
have a cell in it, and is as wide as its widest cell and the padding.
-/

/-! ## Columns -/

namespace GraphWalk.Text

/-- A line of which the cells on the left are laid out already. -/
structure Row where
  done : String
  cells : List String
deriving Repr, Inhabited

namespace Row

/-- Whether the next cell of a line is in a column. -/
def inColumn (r : Row) : Bool := r.cells.length ≥ 2

def width (r : Row) : Nat := (r.cells.head?.getD "").length

/-- Lays out the next cell in a column of a width. -/
def advance (width : Nat) (r : Row) : Row :=
  let cell := r.cells.head?.getD ""
  ⟨r.done ++ cell ++ String.ofList (List.replicate (width - cell.length) ' '), r.cells.tail⟩

def text (r : Row) : String := r.done ++ String.join r.cells

end Row

/-- Lays out lines, one column after the other. -/
def layRows (padding : Nat) : Nat → List Row → List String
  | 0, rows => rows.map Row.text
  | columns + 1, rows =>
    (rows.splitBy fun a b => a.inColumn == b.inColumn).flatMap fun block =>
      if block.any Row.inColumn then
        let width := (block.map Row.width).foldl max 0 + padding
        layRows padding columns (block.map (Row.advance width))
      else block.map Row.text

def cellsOf (line : List Char) : List String :=
  (splitWhere (fun c => c = '\t' || c = '\x0b') line).map String.ofList

/-- Lays out a text. A form feed ends a line and all columns. -/
def inColumns (padding : Nat) (text : String) : String :=
  let parts := (splitWhere (· = '\x0c') text.toList).map fun part =>
    let rows := (splitWhere (· = '\n') part).map fun line => Row.mk "" (cellsOf line)
    let columns := (rows.map fun r => r.cells.length).foldl max 0
    "\n".intercalate (layRows padding columns rows)
  "\n".intercalate parts

end GraphWalk.Text

/-! ## Tables -/

namespace GraphWalk.Overview

/-- The space between columns. -/
def padding : Nat := 2

/-- When an ability runs, and whether and where its body is defined. -/
def abilitySummary (a : Ability) : String :=
  let trigger :=
    if a.signature.isTriggered then
      ["on " ++ a.signature.event.text ++ (if a.signature.filter.isEmpty then ""
        else " [" ++ ", ".intercalate a.signature.filter ++ "]")]
    else []
  let binding :=
    if a.isBound then
      if a.defModule ≠ "" && a.defModule ≠ a.declModule then ["bound in " ++ a.defModule] else []
    else if a.isAbstract then ["abstract"] else ["unbound"]
  ", ".intercalate (trigger ++ binding)

def architypeLines (a : Architype) : List String :=
  let bases := if a.baseNames.isEmpty then "" else " extends " ++ ", ".intercalate a.baseNames
  ("  " ++ a.kind.text ++ "\t" ++ a.name ++ bases)
    :: a.fields.map (fun f => "    has\t" ++ f.name ++ ": " ++ f.type.friendlyName)
    ++ a.abilities.map fun ab => "    can\t" ++ ab.name ++ "\t" ++ abilitySummary ab

def graphLine (g : SeedGraph) : String :=
  "  graph\t" ++ g.name ++ "\t" ++ toString g.nodes.length ++ " nodes, "
    ++ toString g.edges.length ++ " edges, " ++ toString g.spawns.length ++ " walkers"

/-- The lines about a module, with those architypes that it was the first to name. -/
def moduleLines (archs : List Architype) (m : Module) : List String :=
  ("module " ++ m.name ++ "\t" ++ m.path)
    :: m.imports.map (fun i => "  import\t" ++ i.module)
    ++ (archs.filter (·.module = m.name)).flatMap architypeLines
    ++ m.tests.map (fun t => "  test\t" ++ t.name ++ "\t" ++ t.description)
    ++ m.graphs.map graphLine

def table (lines : List String) : String :=
  Text.inColumns padding (String.join (lines.map (· ++ "\n")))

/-- The loaded modules in order, with all that they declare. -/
def world (w : World) : String :=
  table (w.modules.flatMap (moduleLines w.engine.registry.archs))

def snapshotLine (i : SnapshotInfo) : String :=
  "\t".intercalate [i.id, i.name, i.created.wholeText ++ "Z", toString i.nodes, toString i.edges]

/-- The snapshots of an archive, newest first. -/
def snapshots : List SnapshotInfo → String
  | [] => "No snapshots saved yet.\n"
  | infos => table ("\t".intercalate ["ID", "NAME", "CREATED", "NODES", "EDGES"]
      :: infos.map snapshotLine)

end GraphWalk.Overview
