import GraphWalk.Command.Describe
import GraphWalk.Command.Session
import GraphWalk.Command.Tree
import GraphWalk.Settings.Sources

/-!
# Running commands

`Command.execute` takes the arguments of the program and what it finds around it, and
gives what the program writes, the code it ends with, and the files it leaves.
-/

namespace GraphWalk

/-- How a command ended. -/
structure CommandOutcome where
  code : Nat
  out : String
  /-- The text of the fault that ended it. -/
  fault : Option String
  /-- Records that were logged beside the output. -/
  aside : List LogRecord
  /-- The files that the command leaves. -/
  files : Entry

namespace Fault

/-- The code that a program ends with after a fault. -/
def exitCode : Fault → Nat
  | .exit code _ => code
  | _ => 1

end Fault

namespace Command

/-- The work of a command with its arguments. -/
def job (c : Command) (args : List String) : Job Unit :=
  match c, args with
  | .check, _ => do
    Job.loadModules
    let w := (← get).world
    Job.print ("ok: " ++ toString w.modules.length ++ " modules, "
      ++ toString w.engine.registry.archs.length ++ " architypes, "
      ++ toString w.graphNames.length ++ " graphs\n")
  | .run, _ => do
    Job.loadModules
    Job.listen
    Job.connectTrace
    match ← Job.pickGraph with
    | some name => Job.runGraph name
    | none =>
      Job.log .warn "No seed graph defined, nothing to run." []
      Job.serve []
  | .describe, _ => do
    Job.loadModules
    Job.print (Overview.world (← get).world)
  | .snapshotList, _ => do
    let archive ← Job.openArchive
    Job.print (Overview.snapshots archive.list)
  | .snapshotRestore, [_, id] => do
    Job.loadModules
    let count ← Job.restoreSnapshot id
    Job.print ("restored " ++ toString count ++ " instances from " ++ id ++ "\n")
    Job.listen
    Job.serve []
  | _, _ => pure ()

/-- Runs a job in a new session, which is closed whatever happens. -/
def perform (host : Host) (settings : Settings) (j : Job Unit) : CommandOutcome :=
  let (result, s) := (j.run).run (Session.new host settings)
  let s := s.close
  match result with
  | .ok () => ⟨0, s.output, none, s.aside, s.host.files⟩
  | .error f => ⟨f.exitCode, s.output, some f.message, s.aside, s.host.files⟩

/-- Reads flags, checks the arguments and gathers the settings. No settings are
gathered if the command only explains itself. -/
def prepare (host : Host) (c : Command) (args : List String) :
    Except Fault (Option (Settings × List String)) := do
  let given ← (Flag.readAll (helpFlag :: c.flags) args).mapError fun e => .exit 2 e.message
  let asked := ((given.value? helpFlag.name).map (·.toSwitch)).getD false
  if asked || !c.isRunnable then return none
  c.checkArguments given.args
  let sources : SettingSources := ⟨c.flags, given, host.environment, []⟩
  let sources ← sources.withDocument host.files
  if !c.needsSettings then return none
  return some (← sources.settings given.args, given.args)

/-- Runs the program with its arguments. -/
def execute (host : Host) (args : List String) : CommandOutcome :=
  let prepared := do
    let (c, rest) ← find args
    return (c, ← prepare host c rest)
  match prepared with
  | .error f => ⟨f.exitCode, "", some f.message, [], host.files⟩
  | .ok (_, none) => ⟨0, "", none, [], host.files⟩
  | .ok (c, some (settings, args)) => perform host settings (c.job args)

end Command

end GraphWalk
