import GraphWalk.Log
import GraphWalk.Module.Read
import GraphWalk.Natives.Standard
import GraphWalk.Settings.Basic
import GraphWalk.Snapshot.Backend
import GraphWalk.Web.Transport
import GraphWalk.World.Seed

/-!
# Sessions

A session is a world with the settings of a command and what the command finds
around it. Its jobs load modules, start the inspection server, run walkers, and save
and restore snapshots. What they tell the outside is collected in order among the
signals of the world, and written at the end.
-/

namespace GraphWalk

/-- What a command finds around it. -/
structure Host where
  files : Entry
  environment : List (String × String)
  /-- Whether the command is called off before it starts. -/
  isCancelled : Bool
  now : Instant
  walkerId : Nat → String
  /-- The id of the next snapshot. -/
  snapshotId : String
  /-- Whether something else listens at a port. -/
  isTaken : Int → Bool
  web : String → String → Except WebFailure WebReply
  /-- The number of steps after which a walker is left alone. -/
  stepLimit : Nat

structure Session where
  host : Host
  settings : Settings
  world : World
  /-- Whether the inspection server is up. -/
  isListening : Bool
  /-- Records that do not belong to the log of the session. -/
  aside : List LogRecord

/-- Work on a session that can fail. What was done before a fault stays. -/
abbrev Job := ExceptT Fault (StateM Session)

namespace Session

def new (host : Host) (settings : Settings) : Session :=
  { host, settings
    world := World.new settings.haltOnError
      { environment := host.environment, web := host.web, walkerId := host.walkerId }
    isListening := false
    aside := [] }

def emit (s : Session) (signal : Signal) : Session :=
  { s with world := { s.world with engine := s.world.engine.emit signal } }

/-- Shuts the inspection server down. -/
def close (s : Session) : Session :=
  if s.isListening then
    { s with isListening := false }.emit
      (.log ⟨.info, "🔎 Shutting down inspection server...", []⟩)
  else s

/-- What a signal writes. -/
def signalText (s : Session) : Signal → String
  | .print text => text
  | .log r => logText r
  | .trace o => logText o.logRecord
where
  logText (r : LogRecord) : String :=
    if s.settings.leastLevel.passes r.level then
      LogFormat.line (if s.settings.logFormat = "json" then .json else .pairs) s.host.now
        (r.tagged [("app", .text "walkgrid")])
    else ""

/-- All that the session wrote. -/
def output (s : Session) : String :=
  String.join (s.world.engine.signals.toList.map s.signalText)

end Session

namespace Job

def log (level : LogLevel) (message : String) (attrs : List (String × LogValue)) : Job Unit :=
  modify (·.emit (.log ⟨level, message, attrs⟩))

def print (text : String) : Job Unit := modify (·.emit (.print text))

/-- Names the context of a fault. -/
def within {α : Type} (label : String) (r : Except Fault α) : Job α :=
  match r with
  | .ok a => pure a
  | .error f => throw (.within label f)

/-- Loads all modules under the path in the settings. -/
def loadModules : Job Unit := do
  let s ← get
  let mods ← within "failed to load modules"
    (Module.load (.standard "") s.host.files [s.settings.modulesPath])
  let (world, fault) := s.world.load mods
  set { s with world }
  if let some f := fault then throw (.within "failed to resolve modules" f)
  log .info "Modules loaded successfully."
    [("modules", .count mods.length), ("architypes", .count world.engine.registry.archs.length),
      ("graphs", .names world.graphNames)]

/-- Starts the inspection server if there is a port for it. -/
def listen : Job Unit := do
  let s ← get
  let port := s.settings.inspectPort
  if port > 0 then
    if s.host.isTaken port then
      throw (.within "inspection server"
        (.text ("listen tcp :" ++ toString port ++ ": bind: address already in use")))
    set { s with isListening := true }

/-- Serves until called off, if asked to; then passes on what went wrong before. -/
def serve (faults : List Fault) : Job Unit := do
  let s ← get
  if s.settings.serve && s.isListening then
    log .info "Serving inspection API until interrupted." []
  if let some f := Fault.join? faults then throw (.within "execution failed" f)

/-- Connects to the trace server in the settings. None ever answers. -/
def connectTrace : Job Unit := do
  let s ← get
  let url := s.settings.traceUrl
  if url ≠ "" then
    log .info "Connecting trace sink..." [("component", .text "tracesink"), ("url", .text url)]
    throw (.within "failed to connect trace sink" (Relay.attempt url 0 s.host.isCancelled))

/-- The seed graph to run: the one in the settings, or the only one; none if there is
none at all. -/
def pickGraph : Job (Option String) := do
  let s ← get
  if s.settings.graph ≠ "" then return some s.settings.graph
  match s.world.graphNames with
  | [] => return none
  | [name] => return some name
  | names => throw (.text ("modules define several graphs " ++ bracketed names ++ ", pick one"))

/-- The lines about reports, up to the first that has no text. -/
def reportLines (id : String) : List Value → List String × Option Fault
  | [] => ([], none)
  | v :: rest => match v.jsonText with
    | .error e => ([], some (.within ("walker " ++ id ++ " report") (.text e.message)))
    | .ok json =>
      let (lines, fault) := reportLines id rest
      (("  report " ++ json ++ "\n") :: lines, fault)

/-- What is told about a walker after a run. -/
def walkerLines (w : Walker) : List String × Option Fault :=
  let first := w.arch.name ++ " " ++ w.id ++ ": " ++ w.state.text ++ " after " ++ toString w.steps
    ++ " steps\n"
  match reportLines w.id w.reports with
  | (reports, some f) => (first :: reports, some f)
  | (reports, none) =>
    (first :: reports ++ w.faults.map fun f => "  error  " ++ f.message ++ "\n", none)

/-- Tells about walkers, up to the first whose reports have no text. -/
def tellWalkers : List Walker → List String × Option Fault
  | [] => ([], none)
  | w :: rest => match walkerLines w with
    | (lines, some f) => (lines, some f)
    | (lines, none) =>
      let (more, fault) := tellWalkers rest
      (lines ++ more, fault)

/-- Opens the archive in the settings. -/
def openArchive : Job Archive := do
  let s ← get
  let place := s.settings.snapshotPlace
  if place = "" then throw (.text "no snapshot store configured")
  let (files, archive) ← within "failed to open snapshot store"
    (Archive.openBackend s.host.files s.host.isCancelled s.settings.snapshotBackend place)
  set { s with host := { s.host with files } }
  return archive

/-- Saves the graph under a name. -/
def saveSnapshot (name : String) : Job Unit := do
  let archive ← openArchive
  let s ← get
  let snap ← within "failed to capture snapshot"
    (Snapshot.capture s.world.engine.store s.host.snapshotId name s.host.now)
  let archive ← within "failed to save snapshot"
    ((archive.save snap).mapError fun e => .text e.message)
  let files ← match (ArchivePlace.parse s.settings.snapshotPlace).toOption.bind
      (archive.keepIn s.host.files) with
    | some files => pure files
    | none => throw (.within "failed to save snapshot"
        (.within "inserting snapshot" (.text Archive.readOnlyNote)))
  set { s with host := { s.host with files } }
  log .info "📸 Snapshot saved." [("id", .text snap.id), ("name", .text snap.name),
    ("nodes", .count snap.nodes.length), ("edges", .count snap.edges.length)]

/-- Restores a snapshot into the graph, and counts what was created. -/
def restoreSnapshot (id : String) : Job Nat := do
  let archive ← openArchive
  let snap ← archive.load id
  let s ← get
  let (store, restored) := snap.restore s.world.engine.registry s.world.engine.store
  let s := { s with world := s.world.withStore store }
  let failed := fun (f : Fault) =>
    within ("failed to restore snapshot " ++ id) (Except.error f : Except Fault Nat)
  match restored with
  | .done handles record =>
    set { s with aside := s.aside ++ [record] }
    return handles.length
  | .failed f record =>
    set { s with aside := s.aside ++ [record] }
    failed f
  | .brokenOff message =>
    set s
    failed (.text message)

/-- Runs the walkers of a seed graph and gives what went wrong. -/
def runSeed (seed : Seed) : Job (List Fault) := do
  let s ← get
  let (engine, fault) := s.world.engine.runAll s.host.stepLimit s.host.isCancelled
    s.settings.workers.toNat seed.walkers
  set { s with world := { s.world with engine } }
  let (lines, unwritten) := tellWalkers (seed.walkers.filterMap fun k => engine.walkers[k]?)
  print (String.join lines)
  return fault.toList ++ unwritten.toList

/-- Builds a seed graph and runs its walkers to completion. -/
def runGraph (name : String) : Job Unit := do
  let s ← get
  let (world, seed) := s.world.build name
  set { s with world }
  let seed ← within "failed to build graph" seed
  log .info "🚀 Running walkers..." [("graph", .text name),
    ("walkers", .count seed.walkers.length), ("workers", .count s.settings.workers.toNat)]
  let faults ← runSeed seed
  log .info "🏁 Run finished." []
  let faults ← if s.settings.snapshotPlace = "" then pure faults
    else do
      let title := if s.settings.snapshotName = "" then name else s.settings.snapshotName
      tryCatch (do saveSnapshot title; return faults) fun f => pure (faults ++ [f])
  serve faults

end Job

end GraphWalk
