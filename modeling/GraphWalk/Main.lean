import GraphWalk.Command.Run
import GraphWalk.Web.Transport
import Std.Time.DateTime.Timestamp

/-!
# The program

Reads the files below the working directory, runs a command on them, writes what it
told, and stores the files that it changed.
-/

namespace GraphWalk.Shell

/-- The entries of a directory. Directories whose names start with a dot stay empty. -/
partial def readEntries (entries : Array IO.FS.DirEntry) : IO (List (String × Entry)) :=
  entries.toList.mapM fun e => do
    if ← e.path.isDir then
      let below ← if e.fileName.startsWith "." then pure [] else readEntries (← e.path.readDir)
      return (e.fileName, .directory below)
    else
      let text ← try IO.FS.readFile e.path catch _ => pure "\uFFFD"
      return (e.fileName, .file text)

/-- The process variables that hold settings. -/
def readVariables : IO (List (String × String)) := do
  let names := (Command.run.flags.map fun f => SettingSources.variableName f.name)
  names.filterMapM fun name => return (← IO.getEnv name).map fun v => (name, v)

/-- An id of 32 hexadecimal digits in five groups. -/
def idText (n : Nat) : String :=
  let digits := Text.hexPadded 32 n
  let group := fun (start size : Nat) => String.ofList ((digits.drop start).take size)
  "-".intercalate [group 0 8, group 8 4, group 12 4, group 16 4, group 20 12]

/-- A number from random bytes. -/
def randomNumber : IO Nat := do
  return (← IO.getRandomBytes 16).foldl (fun n b => 256 * n + b.toNat) 0

def readClock : IO Instant := do
  let nanos := (← Std.Time.Timestamp.now).toNanosecondsSinceUnixEpoch.val
  return ⟨nanos / 1000000000, (nanos % 1000000000).toNat⟩

end GraphWalk.Shell

open GraphWalk in
def main (args : List String) : IO UInt32 := do
  let start ← Shell.randomNumber
  let host : Host :=
    { files := .directory (← Shell.readEntries (← (← IO.currentDir).readDir))
      environment := ← Shell.readVariables
      isCancelled := false
      now := ← Shell.readClock
      walkerId := fun n => Shell.idText (start + n + 1)
      snapshotId := Shell.idText start
      isTaken := fun _ => false
      web := Web.refuse
      stepLimit := 1000000000 }
  let o := Command.execute host args
  IO.print o.out
  for record in o.aside do
    IO.eprint (LogFormat.line .pairs host.now record)
  if let some message := o.fault then IO.eprintln message
  for (path, text) in host.files.changes o.files do
    IO.FS.writeFile path text
  return o.code.toUInt32
