import GraphWalk.Files.Entry
import GraphWalk.Module.Basic
import GraphWalk.Module.Draft
import GraphWalk.Module.TypeExpr
import GraphWalk.Natives
import GraphWalk.Script.Run
import GraphWalk.Source.Parse

/-!
# Reading modules

`Module.read` makes a module of the text of a file. The text has to be
well-formed, its blocks have to have the right shape, and its parts have to make
sense; the faults of all parts are reported together.

The elements come in groups: imports, globals, architypes, definitions, tests and
graphs. Inside a group, and among the abilities of an architype, they stand in
source order.
-/

namespace GraphWalk

open Source

/-- The last part of a path: what stands behind the last slash, not counting
slashes at the end. -/
def baseName (path : String) : String :=
  if path.isEmpty then "."
  else
    let cs := (path.toList.reverse.dropWhile (· = '/')).takeWhile (· ≠ '/')
    if cs.isEmpty then "/" else String.ofList cs.reverse

/-- The extension of a path: its last point and what follows, unless a slash
does. -/
def extension (path : String) : String :=
  let tail := path.toList.reverse.takeWhile fun c => c ≠ '.' && c ≠ '/'
  match path.toList.reverse.drop tail.length with
  | '.' :: _ => String.ofList ('.' :: tail.reverse)
  | _ => ""

/-- Drops an ending. -/
def dropEnding (s ending : String) : String :=
  if ending.isEmpty || !s.endsWith ending then s
  else String.ofList (s.toList.take (s.length - ending.length))

/-- The name a module has unless it gives itself one. -/
def defaultModuleName (path : String) : String := dropEnding (baseName path) (extension path)

namespace Module

/-- How parts are read: the file, and the native bodies it may refer to. -/
structure Reader where
  file : String
  natives : Natives

namespace Reader

def pos (r : Reader) (line : Nat) : Pos := ⟨r.file, line⟩

/-- The value of a constant expression; absent, it is null. -/
def constant (r : Reader) (e : Option Expr) : Except Fault Value :=
  match e with
  | none => .ok (.null .dynamic)
  | some e =>
    let o := e.eval .constant
    match o.issue with
    | some i => .error (.text (i.message r.file))
    | none => .ok o.value

/-- The attributes of a constant object. -/
def constantEntries (r : Reader) (e : Option Expr) : Except Fault (List (String × Value)) := do
  match ← r.constant e with
  | .null _ => return []
  | .object kvs | .map _ kvs => return kvs
  | v => throw (.text ("expected an object, got " ++ v.type.friendlyName))

def fieldDef (r : Reader) (f : Draft.Field) : Except Fault FieldDef := do
  let ty ← match f.type with
    | none => .ok .dynamic
    | some e => (e.asType .byKey).mapError fun e => .text e.message
  let v ← (r.constant f.default).mapError (.within "invalid default")
  if v.isNull then return ⟨f.name, ty, some (.null ty)⟩
  match v.convert ty with
  | .ok v => return ⟨f.name, ty, some v⟩
  | .error e =>
    throw (.within ("default does not match type " ++ ty.friendlyName) (.text e.message))

/-- When an ability fires, and on what. -/
def signature (event : Option String) (filter : List String) : Except Fault Signature :=
  let raw := event.getD ""
  match Event.parse? raw with
  | none => .error (.text (Event.unknownMessage raw))
  | some ev =>
    if ev = .none && !filter.isEmpty then .error (.text "filter requires an on event")
    else .ok ⟨[], ev, filter⟩

/-- The body of an ability: a native one by name, or the statements of the block. -/
def abilityBody (r : Reader) (origin : String) (native : Option String) (d : Document) :
    Except Fault Body :=
  match d.arguments.find? fun a => !(["on", "filter", "native"].contains a.name) with
  | some a =>
    .error (.text (a.span.text r.file ++ ": unexpected argument " ++ Text.quote a.name))
  | none =>
    match native with
    | some name =>
      if !d.blocks.isEmpty then
        .error (.text "a native ability cannot also contain statements")
      else match r.natives.find? name with
        | some b => .ok b
        | none => .error (.text ("unknown native body " ++ Text.quote name))
    | none =>
      match Statement.ofBlocks d.blocks with
      | .ok statements => .ok (Script.body ⟨r.file, origin, statements⟩)
      | .error flaws => .error (.text (Flaw.message r.file flaws))

/-- An ability that is written with its body. -/
def can (r : Reader) (key : ArchKey) (c : Draft.Can) : Except Fault AbilityDecl :=
  (do
    let sig ← signature c.event c.filter
    let body ← r.abilityBody (key.text ++ "." ++ c.name) c.native c.body
    return ⟨r.pos c.line, c.name, sig, false, some body⟩ : Except Fault AbilityDecl).mapError
      (.within ("ability " ++ Text.quote c.name))

/-- An ability that is only declared. -/
def decl (r : Reader) (d : Draft.Decl) : Except Fault AbilityDecl :=
  (do
    let sig ← signature d.event d.filter
    return ⟨r.pos d.line, d.name, sig, d.isAbstract, none⟩ : Except Fault AbilityDecl).mapError
      (.within ("ability " ++ Text.quote d.name))

/-- Puts what stands at offsets in the order of the text. -/
def inSourceOrder {α : Type} (offset : α → Nat) (xs : List α) : List α :=
  xs.mergeSort fun x y => offset x ≤ offset y

/-- The abilities of an architype, in source order. Those with bodies are looked
at first. -/
def abilities (r : Reader) (key : ArchKey) (a : Draft.Arch) : Except Fault (List AbilityDecl) := do
  let cans ← a.cans.mapM fun c => (r.can key c).map (c.offset, ·)
  let decls ← a.decls.mapM fun d => (r.decl d).map (d.offset, ·)
  return (inSourceOrder Prod.fst (cans ++ decls)).map Prod.snd

def arch (r : Reader) (kind : Kind) (a : Draft.Arch) : Except Fault ArchDecl := do
  if a.directed.isSome && kind ≠ .edge then
    throw (.text "only edge architypes can set directed")
  let fields ← a.fields.mapM fun f =>
    (r.fieldDef f).mapError (.within ("field " ++ Text.quote f.name))
  let abilities ← r.abilities ⟨kind, a.name⟩ a
  return {
    pos := r.pos a.line, kind, name := a.name, bases := a.extend, fields, abilities
    directed := kind == .edge && a.directed.getD true }

/-- The architypes of a draft, kind by kind. -/
def kinded (f : Draft.File) : List (Kind × Draft.Arch) :=
  f.objects.map (.object, ·) ++ f.nodes.map (.node, ·) ++ f.edges.map (.edge, ·) ++
    f.walkers.map (.walker, ·)

/-- The architypes of a draft, in source order. -/
def archs (f : Draft.File) : List (Kind × Draft.Arch) := inSourceOrder (·.2.offset) (kinded f)

def impl (r : Reader) (i : Draft.Impl) : Except Fault Impl :=
  match Kind.parse? i.kind with
  | none => .error (.text (Kind.unknownMessage i.kind))
  | some kind => do
    let path : Path := ⟨kind, i.arch, i.ability⟩
    let body ← r.abilityBody path.text i.native i.body
    return ⟨r.pos i.line, path, some body⟩

def node (r : Reader) (n : Draft.Node) : Except Fault SeedNode := do
  let fields ← (r.constantEntries n.fields).mapError
    (.within ("node " ++ Text.quote n.name ++ ": fields"))
  return ⟨n.name, n.arch, fields⟩

def edge (r : Reader) (e : Draft.Edge) : Except Fault SeedEdge := do
  let fields ← (r.constantEntries e.fields).mapError
    (.within ("edge " ++ Text.quote e.name ++ ": fields"))
  return ⟨e.name, e.arch, e.source, e.target, fields, e.directed⟩

def spawn (r : Reader) (s : Draft.Spawn) : Except Fault SeedSpawn := do
  let args ← (r.constantEntries s.args).mapError
    (.within ("spawn " ++ Text.quote s.walker ++ ": args"))
  return ⟨s.walker, s.at_, args⟩

def graph (r : Reader) (g : Draft.Graph) : Except Fault SeedGraph := do
  return ⟨r.pos g.line, g.name, ← g.nodes.mapM r.node, ← g.edges.mapM r.edge,
    ← g.spawns.mapM r.spawn⟩

/-- The elements of a draft, each with its label in messages. -/
def elements (r : Reader) (f : Draft.File) : List (Except Fault Element) :=
  let labelled {α : Type} (label : String) (wrap : α → Element) (x : Except Fault α) :
      Except Fault Element := (x.map wrap).mapError (.within label)
  f.imports.map (fun i => .ok (.imported ⟨r.pos i.line, i.module⟩))
    ++ f.globals.map (fun g => labelled ("global " ++ Text.quote g.name) .global
      ((r.constant g.value).map fun v => ⟨r.pos g.line, g.name, v, g.isPrivate⟩))
    ++ (archs f).map (fun (kind, a) =>
      labelled (kind.text ++ " " ++ Text.quote a.name) .arch (r.arch kind a))
    ++ f.impls.map (fun i => labelled
      ("impl " ++ i.kind ++ "." ++ i.arch ++ "." ++ i.ability) .impl (r.impl i))
    ++ f.tests.map (fun t => .ok (.test ⟨r.pos t.line, t.name, t.description.getD ""⟩))
    ++ f.graphs.map (fun g => labelled ("graph " ++ Text.quote g.name) .graph (r.graph g))

end Reader

/-- The successes, or all faults. -/
def collect {α : Type} (xs : List (Except Fault α)) : Except (List Fault) (List α) :=
  match xs.filterMap fun x => match x with
    | .error f => some f
    | .ok _ => none with
  | [] => .ok (xs.filterMap fun x => x.toOption)
  | fs => .error fs

/-- The module of a draft. -/
def ofDraft (r : Reader) (stamp : Nat) (f : Draft.File) : Except Fault Module :=
  let name := f.name.getD (defaultModuleName r.file)
  match collect (r.elements f) with
  | .ok elements => .ok ⟨name, r.file, elements, stamp⟩
  | .error fs =>
    .error (.within ("module " ++ Text.quote name ++ " (" ++ r.file ++ ")") (.joined fs))

/-- The module in a source text. -/
def read (natives : Natives) (file : String) (stamp : Nat) (text : String) :
    Except Fault Module :=
  match Document.read? text with
  | none => .error (.within ("failed to parse HCL file " ++ file) (.text "<syntax error>"))
  | some d =>
    match Draft.read d with
    | .error i => .error (.within ("failed to decode HCL file " ++ file) (.text (i.message file)))
    | .ok draft => ofDraft ⟨file, natives⟩ stamp draft

/-! ## Loading modules from files -/

/-- The ending of module files. -/
def fileExtension : String := ".hcl"

/-- Reads module files in order; the number of a file marks what comes from it. -/
def readFiles (natives : Natives) (root : Entry) :
    Nat → List String → List (Except Fault Module)
  | _, [] => []
  | stamp, path :: rest =>
    let text := match root.resolve path with
      | .ok (.file text) => text
      | _ => ""
    read natives path stamp text :: readFiles natives root (stamp + 1) rest

/-- Reads every module file under the paths. All files are read, and all faults are
told together. -/
def load (natives : Natives) (root : Entry) (paths : List String) :
    Except Fault (List Module) :=
  match root.find paths fileExtension with
  | .error e => .error (.text e.message)
  | .ok [] =>
    .error (.text ("no " ++ fileExtension ++ " files found in " ++ ", ".intercalate paths))
  | .ok files => (collect (readFiles natives root 0 files)).mapError .joined

end Module

end GraphWalk
