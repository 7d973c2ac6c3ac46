import GraphWalk.Fault
import GraphWalk.Log

/-!
# Settings

What a command is told to do. `Settings.check` finds everything that is wrong
with the settings, in a fixed order, and fills in the number of workers.
-/

namespace GraphWalk

structure Settings where
  modulesPath : String
  /-- The seed graph to run; empty for the only one. -/
  graph : String
  logFormat : String
  logLevel : String
  workers : Int
  haltOnError : Bool
  /-- The port of the inspection server; zero for none. -/
  inspectPort : Int
  /-- Whether the inspection server goes on after the run. -/
  serve : Bool
  snapshotBackend : String
  snapshotPlace : String
  snapshotName : String
  traceUrl : String
  traceNamespace : String
deriving Repr, DecidableEq, Inhabited

/-- What can be wrong with settings. -/
inductive SettingsError where
  | noModulesPath
  | logFormat (given : String)
  | logLevel (given : String)
  | negativeWorkers (given : Int)
  | portRange (given : Int)
  | serveWithoutPort
  | snapshotBackend (given : String)
deriving Repr, DecidableEq

def SettingsError.message : SettingsError → String
  | .noModulesPath => "ModulesPath is a required configuration field and cannot be empty"
  | .logFormat given =>
    "invalid log format " ++ Text.quote given ++ ": must be 'text' or 'json'"
  | .logLevel given =>
    "invalid log level " ++ Text.quote given ++ ": must be 'debug', 'info', 'warn', or 'error'"
  | .negativeWorkers given => "worker count must not be negative, got " ++ toString given
  | .portRange given => "inspect port " ++ toString given ++ " out of range"
  | .serveWithoutPort => "serve requires an inspect port"
  | .snapshotBackend given =>
    "unknown snapshot backend " ++ Text.quote given ++ ": must be 'sqlite' or 'neo4j'"

namespace Settings

/-- The level of a name. -/
def level? : String → Option LogLevel
  | "debug" => some .debug
  | "info" => some .info
  | "warn" => some .warn
  | "error" => some .error
  | _ => none

/-- Everything that is wrong, in order. -/
def problems (s : Settings) : List SettingsError :=
  (if s.modulesPath = "" then [.noModulesPath] else [] : List SettingsError)
    ++ (if ["", "text", "json"].contains s.logFormat then []
        else [.logFormat s.logFormat] : List SettingsError)
    ++ (if s.logLevel = "" || (level? s.logLevel).isSome then []
        else [.logLevel s.logLevel] : List SettingsError)
    ++ (if s.workers < 0 then [.negativeWorkers s.workers] else [] : List SettingsError)
    ++ (if s.inspectPort < 0 || s.inspectPort > 65535 then [.portRange s.inspectPort]
        else [] : List SettingsError)
    ++ (if s.serve && s.inspectPort = 0 then [.serveWithoutPort] else [] : List SettingsError)
    ++ (if ["", "sqlite", "neo4j"].contains s.snapshotBackend then []
        else [.snapshotBackend s.snapshotBackend] : List SettingsError)

/-- Settings that can be used, with at least one worker. -/
def check (s : Settings) : Except Fault Settings :=
  match s.problems with
  | [] => .ok (if s.workers = 0 then { s with workers := 1 } else s)
  | ps => .error (.joined (ps.map fun p => .text p.message))

/-- The lowest level that is logged. -/
def leastLevel (s : Settings) : LogLevel := (level? s.logLevel).getD .info

end Settings

end GraphWalk
