import GraphWalk.Settings.Basic
import GraphWalk.Settings.Document
import GraphWalk.Settings.Flag

/-!
# Where settings come from

A setting is looked for among the flags that were given, then in the process
variables, then in the settings file, and last among the fallbacks of the flags of
the command. A variable that is empty does not count.
-/

namespace GraphWalk

structure SettingSources where
  /-- The flags that the command knows. -/
  flags : List Flag
  given : Given
  environment : List (String × String)
  document : List (String × SettingValue)
deriving Inhabited

namespace SettingSources

/-- The process variable of a setting. -/
def variableName (name : String) : String :=
  "WALKGRID_" ++ String.ofList ((Text.upper name).toList.map fun c => if c = '-' then '_' else c)

/-- The value of a process variable, unless it is empty. -/
def processValue? (s : SettingSources) (name : String) : Option SettingValue :=
  match lookupKey (variableName name) s.environment with
  | some "" | none => none
  | some v => some (.text v)

def value? (s : SettingSources) (name : String) : Option SettingValue :=
  (s.given.value? name).orElse fun _ =>
    (s.processValue? name).orElse fun _ =>
      (lookupKey name s.document).orElse fun _ => (Flag.find? s.flags name).map (·.fallback)

def text (s : SettingSources) (name : String) : String :=
  ((s.value? name).map (·.toText)).getD ""

def whole (s : SettingSources) (name : String) : Int :=
  ((s.value? name).map (·.toWhole)).getD 0

def switch (s : SettingSources) (name : String) : Bool :=
  ((s.value? name).map (·.toSwitch)).getD false

/-- Reads the settings file that the other sources name, if any. -/
def withDocument (s : SettingSources) (root : Entry) : Except Fault SettingSources :=
  let path := s.text "config"
  if path = "" then .ok s
  else match SettingsDocument.read root s.environment path with
    | .ok document => .ok { s with document }
    | .error e => .error (.exit 2 ("reading config file " ++ path ++ ": " ++ e.message))

/-- Where the modules are: the first argument, or a setting. -/
def modulesPath (s : SettingSources) (args : List String) : Except Fault String :=
  match args with
  | path :: _ => .ok path
  | [] =>
    let path := s.text "modules-path"
    if path = "" then .error (.exit 2 "a modules path is required") else .ok path

/-- The settings of a command with the given arguments. -/
def settings (s : SettingSources) (args : List String) : Except Fault Settings := do
  let modulesPath ← s.modulesPath args
  let gathered : Settings :=
    { modulesPath
      graph := s.text "graph"
      logFormat := Text.lower (s.text "log-format")
      logLevel := Text.lower (s.text "log-level")
      workers := s.whole "workers"
      haltOnError := s.switch "halt-on-error"
      inspectPort := s.whole "inspect-port"
      serve := s.switch "serve"
      snapshotBackend := s.text "snapshot-backend"
      snapshotPlace := s.text "snapshot-dsn"
      snapshotName := s.text "snapshot-name"
      traceUrl := s.text "trace-url"
      traceNamespace := s.text "trace-namespace" }
  gathered.check.mapError fun f => .exit 2 f.message

end SettingSources

end GraphWalk
