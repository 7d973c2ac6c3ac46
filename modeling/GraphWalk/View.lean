import GraphWalk.Module.Basic
import GraphWalk.Snapshot.Basic
import GraphWalk.Walker.Basic

/-!
# Descriptions

JSON descriptions of architypes, modules, stores, walkers and snapshots.
-/

namespace GraphWalk

namespace View

def texts (ss : List String) : Json := .arr (ss.map .str)

def handles (hs : List Handle) : Json := .arr (hs.map fun h => .str h.text)

/-- A value with its type: its JSON text, or that it is unknown, or why it has no
text. -/
def value (v : Value) : Json :=
  let t := ("t", v.type.toJson)
  if !v.isWhollyKnown then .obj [t, ("unknown", .bool true)]
  else match v.jsonText with
    | .ok s => .obj [t, ("v", .str s)]
    | .error e => .obj [t, ("error", .str e.message)]

def values (kvs : List (String × Value)) : Json := .obj (kvs.map fun (k, v) => (k, value v))

/-- A fault: its kinds, its message and, of a resolution, the single faults. -/
def fault (f : Fault) : Json :=
  let base := fun (f : Fault) => [("error", Json.str f.kindText), ("message", Json.str f.message)]
  match f.resolution? with
  | some fs => .obj (base f ++ [("errs", .arr (fs.map fun f => .obj (base f)))])
  | none => .obj (base f)

def handle (h : Handle) : Json :=
  .obj [("kind", .str h.kind.name), ("index", .ofNat h.index.toNat), ("gen", .ofNat h.gen.toNat),
    ("string", .str h.text), ("nil", .bool h.isNil), ("node", .bool h.isNode),
    ("edge", .bool h.isEdge)]

def fieldDef (f : FieldDef) : Json :=
  .obj [("name", .str f.name), ("type", f.type.toJson),
    ("default", (f.default.map value).getD .null)]

def ability (a : Ability) : Json :=
  .obj [("path", .str a.path.text), ("event", .str a.signature.event.text),
    ("filter", texts a.signature.filter), ("triggered", .bool a.signature.isTriggered),
    ("abstract", .bool a.isAbstract), ("bound", .bool a.isBound),
    ("decl_module", .str a.declModule), ("def_module", .str a.defModule),
    ("order", .ofNat a.order)]

def architype (a : Architype) : Json :=
  .obj [("key", .str a.key.text), ("module", .str a.module), ("base_names", texts a.baseNames),
    ("bases", texts a.bases), ("directed", .bool a.directed),
    ("fields", .arr (a.fields.map fieldDef)),
    ("effective_fields", .arr (a.effectiveFields.map fieldDef)),
    ("abilities", .arr (a.abilities.map ability)),
    ("effective_abilities", texts (a.effectiveAbilities.map (·.path.text)))]

def definition (d : Definition) : Json :=
  .obj [("path", .str d.path.text), ("module", .str d.module)]

/-- A body: none, a native one, or a script with its origin and length. -/
def body : Option Body → Json
  | none => .null
  | some b => match b.form with
    | .native => .str "native"
    | .script origin n => .obj [("origin", .str origin), ("statements", .ofNat n)]

def seedGraph (g : SeedGraph) : Json :=
  .obj [("el", .str "graph"), ("name", .str g.name),
    ("nodes", .arr (g.nodes.map fun n =>
      .obj [("name", .str n.name), ("arch", .str n.arch), ("fields", values n.fields)])),
    ("edges", .arr (g.edges.map fun e =>
      .obj [("name", .str e.name), ("arch", .str e.arch), ("from", .str e.source),
        ("to", .str e.target), ("fields", values e.fields),
        ("directed", (e.directed.map Json.bool).getD .null)])),
    ("spawns", .arr (g.spawns.map fun sp =>
      .obj [("walker", .str sp.walker), ("at", .str sp.at_), ("args", values sp.args)])),
    ("line", .ofNat g.pos.line)]

def element : Element → Json
  | .imported i => .obj [("el", .str "import"), ("module", .str i.module), ("line", .ofNat i.pos.line)]
  | .arch d => .obj [("el", .str "arch"), ("kind", .str d.kind.text), ("name", .str d.name),
      ("bases", texts d.bases), ("directed", .bool d.directed),
      ("fields", .arr (d.fields.map fieldDef)),
      ("abilities", .arr (d.abilities.map fun a =>
        .obj [("name", .str a.name), ("event", .str a.signature.event.text),
          ("filter", texts a.signature.filter), ("abstract", .bool a.isAbstract),
          ("body", body a.body), ("line", .ofNat a.pos.line)])),
      ("line", .ofNat d.pos.line)]
  | .impl d => .obj [("el", .str "impl"), ("path", .str d.path.text), ("body", body d.body),
      ("line", .ofNat d.pos.line)]
  | .global g => .obj [("el", .str "global"), ("name", .str g.name), ("value", value g.value),
      ("private", .bool g.isPrivate), ("line", .ofNat g.pos.line)]
  | .test t => .obj [("el", .str "test"), ("name", .str t.name),
      ("description", .str t.description), ("line", .ofNat t.pos.line)]
  | .graph g => seedGraph g

def module (m : Module) : Json :=
  .obj [("name", .str m.name), ("path", .str m.path), ("elements", .arr (m.elements.map element)),
    ("counts", .arr ([m.imports.length, m.architypes.length, m.impls.length, m.globals.length,
      m.tests.length, m.graphs.length].map .ofNat))]

def walker (w : Walker) : Json :=
  .obj [("arch", .str w.arch.name), ("state", .str w.state.text),
    ("position", .str w.position.text), ("queue", handles w.queue), ("steps", .ofNat w.steps),
    ("reports", .arr (w.reports.map value)), ("errors", .arr (w.faults.map fault)),
    ("fields", values w.fields.toEntries), ("args", value w.args)]

/-- Where a walker is, without what it collected. -/
def walkerPlace (w : Walker) : Json :=
  .obj [("state", .str w.state.text), ("terminal", .bool w.state.isTerminal),
    ("position", .str w.position.text), ("queue", handles w.queue), ("steps", .ofNat w.steps)]

def size (s : Store) : Json := .arr [.ofNat s.size.1, .ofNat s.size.2]

def store (s : Store) : Json :=
  .obj [("nodes", .arr (s.allNodes.map fun n =>
      .obj [("h", .str n.id.text), ("arch", .str n.arch.name),
        ("fields", values n.fields.toEntries), ("edges", handles n.edges),
        ("pinned", .bool (s.isPinned n.id))])),
    ("edges", .arr (s.allEdges.map fun e =>
      .obj [("h", .str e.id.text), ("arch", .str e.arch.name),
        ("fields", values e.fields.toEntries), ("from", .str e.source.text),
        ("to", .str e.target.text), ("directed", .bool e.directed),
        ("pinned", .bool (s.isPinned e.id))])),
    ("len", size s)]

def snapshot (s : Snapshot) : Json :=
  .obj [("id", .str s.id), ("name", .str s.name), ("created", .ofInt s.created.seconds),
    ("nodes", .arr (s.nodes.map fun n =>
      .obj [("handle", .str n.handle), ("arch", .str n.arch), ("fields", .str n.fields)])),
    ("edges", .arr (s.edges.map fun e =>
      .obj [("handle", .str e.handle), ("arch", .str e.arch), ("source", .str e.source),
        ("target", .str e.target), ("directed", .bool e.directed), ("fields", .str e.fields)]))]

def snapshotInfo (i : SnapshotInfo) : Json :=
  .obj [("id", .str i.id), ("name", .str i.name), ("created", .ofInt i.created.seconds),
    ("nodes", .ofInt i.nodes), ("edges", .ofInt i.edges)]

def logRecord (r : LogRecord) : Json :=
  .obj [("level", .str r.level.text), ("msg", .str r.message),
    ("attrs", .arr (r.attrs.map fun (k, v) => .arr [.str k, .str v.render]))]

end View

end GraphWalk
