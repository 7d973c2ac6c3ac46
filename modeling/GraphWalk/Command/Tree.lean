import GraphWalk.Fault
import GraphWalk.Settings.Flag
import GraphWalk.Text.Case

/-!
# The command tree

Commands are found by the words among the arguments that are neither flags nor
values of flags. `Command.find` gives the command and its own arguments; a word that
names no command is refused with the commands that it may have meant.
-/

namespace GraphWalk.Text

/-- The rest of a row of distances for one more item: `row` is the row before, from
the place diagonally above on, and `left` the distance just found. -/
def distanceRow {α : Type} [DecidableEq α] (c : α) : List α → List Nat → Nat → List Nat
  | t :: ts, diagonal :: up :: row, left =>
    let here := if c = t then diagonal else min left (min up diagonal) + 1
    here :: distanceRow c ts (up :: row) here
  | _, _, _ => []

/-- The least number of insertions, deletions and replacements of single items that
turn one list into the other. -/
def editDistance {α : Type} [DecidableEq α] (s t : List α) : Nat :=
  let start := List.range (t.length + 1)
  let last := s.foldl (fun row c =>
    let left := row.head?.getD 0 + 1
    left :: distanceRow c t row left) start
  last.getLast?.getD 0

end GraphWalk.Text

namespace GraphWalk

/-- The shells that can be told how commands are completed. -/
inductive Shell where
  | bash
  | fish
  | powershell
  | zsh
deriving Repr, DecidableEq, Inhabited

def Shell.name : Shell → String
  | .bash => "bash"
  | .fish => "fish"
  | .powershell => "powershell"
  | .zsh => "zsh"

inductive Command where
  /-- The program itself. -/
  | program
  | check
  | run
  | describe
  | snapshot
  | snapshotList
  | snapshotRestore
  | help
  | completion
  | completionFor (shell : Shell)
deriving Repr, DecidableEq, Inhabited

namespace Command

def name : Command → String
  | .program => "walkgrid"
  | .check => "check"
  | .run => "run"
  | .describe => "describe"
  | .snapshot => "snapshot"
  | .snapshotList => "list"
  | .snapshotRestore => "restore"
  | .help => "help"
  | .completion => "completion"
  | .completionFor shell => shell.name

def children : Command → List Command
  | .program => [.check, .run, .describe, .snapshot, .help, .completion]
  | .snapshot => [.snapshotList, .snapshotRestore]
  | .completion => [.completionFor .bash, .completionFor .fish, .completionFor .powershell,
      .completionFor .zsh]
  | _ => []

/-- Whether a command does something itself. -/
def isRunnable : Command → Bool
  | .check | .run | .describe | .snapshotList | .snapshotRestore | .completionFor _ => true
  | _ => false

/-- Whether a command works on modules. -/
def needsSettings : Command → Bool
  | .completionFor _ => false
  | c => c.isRunnable

/-- The flags of all commands. -/
def commonFlags : List Flag :=
  [.text "config" "", .text "log-format" "text", .text "log-level" "info"]

def modulesFlags : List Flag := [.text "modules-path" ""]

def inspectFlags : List Flag := [.whole "inspect-port" 0, .switch "serve"]

def snapshotFlags : List Flag := [.text "snapshot-backend" "sqlite", .text "snapshot-dsn" ""]

/-- The flag that asks for help. -/
def helpFlag : Flag := (Flag.switch "help").withLetter 'h'

/-- The flags of a command, those of all commands included. -/
def flags : Command → List Flag
  | .check | .describe => commonFlags ++ modulesFlags
  | .run => commonFlags ++ modulesFlags
      ++ [(Flag.text "graph" "").withLetter 'g', .whole "workers" 10, .switch "halt-on-error"]
      ++ inspectFlags ++ snapshotFlags
      ++ [.text "snapshot-name" "", .text "trace-url" "", .text "trace-namespace" "/"]
  | .snapshotList => commonFlags ++ modulesFlags ++ snapshotFlags
  | .snapshotRestore => commonFlags ++ inspectFlags ++ snapshotFlags
  | .completionFor _ => commonFlags ++ [.switch "no-descriptions"]
  | _ => commonFlags

/-- What messages say about a word that names no command. -/
def unknownText (word path : String) : String :=
  "unknown command " ++ Text.quote word ++ " for " ++ Text.quote path

/-- Whether a command takes these arguments. -/
def checkArguments (c : Command) (args : List String) : Except Fault Unit :=
  let count := toString args.length
  match c with
  | .snapshotRestore =>
    if args.length = 2 then .ok ()
    else .error (.text ("accepts 2 arg(s), received " ++ count))
  | .completionFor shell => match args with
    | [] => .ok ()
    | word :: _ => .error (.text (unknownText word ("walkgrid completion " ++ shell.name)))
  | _ =>
    if args.length ≤ 1 then .ok ()
    else .error (.text ("accepts at most 1 arg(s), received " ++ count))

/-- Whether an argument is a flag whose value is the next argument, as far as can be
told from the flags of a command. -/
def takesNext (flags : List Flag) (arg : String) : Bool :=
  let cs := arg.toList
  if cs.contains '=' then false
  else match cs with
    | '-' :: '-' :: name =>
      ((Flag.find? flags (String.ofList name)).map (·.kind)) ≠ some .switch
    | ['-', c] =>
      -- a letter beyond ASCII is no flag
      c.toNat < 128 && ((Flag.findLetter? flags c).map (·.kind)) ≠ some .switch
    | _ => false

def isFlagLike (arg : String) : Bool := arg.toList.head? = some '-'

/-- The words among arguments, without flags and their values. -/
def words (flags : List Flag) : List String → List String
  | [] => []
  | arg :: rest =>
    if arg = "--" then []
    else if takesNext flags arg then
      match rest with
      | [] | [_] => []
      | _ :: more => words flags more
    else if arg = "" || isFlagLike arg then words flags rest
    else arg :: words flags rest

/-- The arguments without the first word `w`. -/
def without (flags : List Flag) (w : String) : List String → List String
  | [] => []
  | arg :: rest =>
    if arg = "--" then arg :: rest
    else if takesNext flags arg then
      match rest with
      | [] => [arg]
      | value :: more => arg :: value :: without flags w more
    else if arg = w then rest
    else arg :: without flags w rest

/-- Follows words down the tree, at most as deep as the fuel says. -/
def descend : Nat → Command → List String → Command × List String
  | 0, c, args => (c, args)
  | depth + 1, c, args =>
    match words c.flags args with
    | [] => (c, args)
    | w :: _ => match c.children.find? (·.name = w) with
      | none => (c, args)
      | some d => descend depth d (without c.flags w args)

/-- The commands that a misspelt word may have meant. -/
def suggestions (c : Command) (word : String) : List String :=
  let typed := Text.lower word
  ((c.children.filter (· ≠ .help)).map name).filter fun n =>
    Text.editDistance typed.toUTF8.toList n.toUTF8.toList ≤ 2 || n.startsWith typed

def unknownMessage (c : Command) (word : String) : String :=
  let hints := match c.suggestions word with
    | [] => ""
    | ns => "\n\nDid you mean this?\n" ++ String.join (ns.map fun n => "\t" ++ n ++ "\n")
  unknownText word c.name ++ hints

/-- The command that arguments name, and the arguments left for it. -/
def find (args : List String) : Except Fault (Command × List String) :=
  let (c, rest) := descend 2 .program args
  match c, words c.flags rest with
  | .program, w :: _ => .error (.text (unknownMessage c w))
  | _, _ => .ok (c, rest)

end Command

end GraphWalk
