import GraphWalk.Json.Parse
import GraphWalk.Settings.Value
import GraphWalk.Value.Type

/-!
# Flags

A flag is written `--name value`, `--name=value` or, if it has a letter, `-n value`
or `-nvalue`. A switch needs no value. Two dashes alone end the flags. Everything
else is an argument.
-/

namespace GraphWalk

inductive FlagKind where
  | text
  | whole
  | switch
deriving Repr, DecidableEq, Inhabited

structure Flag where
  name : String
  letter : Option Char
  kind : FlagKind
  fallback : SettingValue
deriving Inhabited

inductive FlagError where
  | malformed (arg : String)
  | unknown (name : String)
  | unknownLetter (c : Char) (group : String)
  | noValue (name : String)
  | noLetterValue (c : Char) (group : String)
  | badValue (flag : Flag) (value why : String)

namespace Flag

/-- How messages name a flag. -/
def label (f : Flag) : String :=
  match f.letter with
  | some c => "-" ++ c.toString ++ ", --" ++ f.name
  | none => "--" ++ f.name

def text (name : String) (fallback : String) : Flag := ⟨name, none, .text, .text fallback⟩

def whole (name : String) (fallback : Int) : Flag := ⟨name, none, .whole, .whole fallback⟩

def switch (name : String) : Flag := ⟨name, none, .switch, .switch false⟩

def withLetter (f : Flag) (c : Char) : Flag := { f with letter := some c }

/-- Reads the value of a flag. -/
def read (f : Flag) (value : String) : Except FlagError SettingValue :=
  let parsing := fun (reader why : String) =>
    FlagError.badValue f value (reader ++ ": parsing " ++ Text.quote value ++ ": " ++ why)
  match f.kind with
  | .text => .ok (.text value)
  | .whole => match Whole.read value with
    | .ok n => .ok (.whole n)
    | .error e => .error (parsing "strconv.ParseInt" e.message)
  | .switch => match SettingValue.readSwitch? value with
    | some b => .ok (.switch b)
    | none => .error (parsing "strconv.ParseBool" "invalid syntax")

end Flag

/-- How messages show a letter. One beyond ASCII is taken for its first byte, and that
again, as a character of its own, for its first byte. -/
def FlagError.letterText (c : Char) : String := Text.quotedChar (Text.firstByte (Text.firstByte c))

def FlagError.message : FlagError → String
  | .malformed arg => "bad flag syntax: " ++ arg
  | .unknown name => "unknown flag: --" ++ name
  | .unknownLetter c group => "unknown shorthand flag: " ++ letterText c ++ " in -" ++ group
  | .noValue name => "flag needs an argument: --" ++ name
  | .noLetterValue c group => "flag needs an argument: " ++ letterText c ++ " in -" ++ group
  | .badValue flag value why =>
    "invalid argument " ++ Text.quote value ++ " for " ++ Text.quote flag.label ++ " flag: " ++ why

/-- What a command was given: the flags that were set, the last value of each, and
the arguments. -/
structure Given where
  flags : List (String × SettingValue)
  args : List String
deriving Inhabited

namespace Given

def empty : Given := ⟨[], []⟩

def set (g : Given) (f : Flag) (value : String) : Except FlagError Given :=
  (f.read value).map fun v => { g with flags := insertKey f.name v g.flags }

def value? (g : Given) (name : String) : Option SettingValue := lookupKey name g.flags

end Given

namespace Flag

def find? (flags : List Flag) (name : String) : Option Flag := flags.find? (·.name = name)

def findLetter? (flags : List Flag) (c : Char) : Option Flag :=
  flags.find? (·.letter = some c)

/-- The value given to a long flag by its own argument, or by the next one. Gives
also what is left of the arguments. -/
def longValue (f : Flag) (attached : Option String) (rest : List String) :
    Except FlagError (String × List String) :=
  match attached with
  | some v => .ok (v, rest)
  | none =>
    if f.kind = .switch then .ok ("true", rest)
    else match rest with
      | v :: rest => .ok (v, rest)
      | [] => .error (.noValue f.name)

/-- Reads letters behind one dash. A letter that takes a value takes the rest of the
argument, or the next argument. -/
def readLetters (flags : List Flag) :
    List Char → List String → Given → Except FlagError (Given × List String)
  | [], rest, g => .ok (g, rest)
  | c :: cs, rest, g =>
    let group := String.ofList (c :: cs)
    match findLetter? flags c with
    | none => .error (.unknownLetter c group)
    | some f =>
      match cs with
      | '=' :: v :: vs => (g.set f (String.ofList (v :: vs))).map fun g => (g, rest)
      | _ =>
        if f.kind = .switch then
          match g.set f "true" with
          | .error e => .error e
          | .ok g => readLetters flags cs rest g
        else if !cs.isEmpty then (g.set f (String.ofList cs)).map fun g => (g, rest)
        else match rest with
          | v :: rest => (g.set f v).map fun g => (g, rest)
          | [] => .error (.noLetterValue c group)

/-- Cuts a text at its first equals sign. -/
def cutEquals (cs : List Char) : String × Option String :=
  match cs.dropWhile (· ≠ '=') with
  | [] => (String.ofList cs, none)
  | _ :: v => (String.ofList (cs.takeWhile (· ≠ '=')), some (String.ofList v))

/-- Reads the next argument. -/
def readNext (flags : List Flag) (arg : String) (rest : List String) (g : Given) :
    Except FlagError (Given × List String) :=
  match arg.toList with
  | ['-', '-'] => .ok ({ g with args := g.args ++ rest }, [])
  | '-' :: '-' :: name =>
    if name.head? = some '-' || name.head? = some '=' then .error (.malformed arg)
    else
      let (name, attached) := cutEquals name
      match find? flags name with
      | none => .error (.unknown name)
      | some f => match f.longValue attached rest with
        | .error e => .error e
        | .ok (v, rest) => (g.set f v).map fun g => (g, rest)
  | '-' :: c :: cs => readLetters flags (c :: cs) rest g
  | _ => .ok ({ g with args := g.args ++ [arg] }, rest)

/-- Reads arguments, at most as many as the fuel says. -/
def readFrom (flags : List Flag) : Nat → List String → Given → Except FlagError Given
  | 0, _, g => .ok g
  | _, [], g => .ok g
  | fuel + 1, arg :: rest, g =>
    match readNext flags arg rest g with
    | .error e => .error e
    | .ok (g, rest) => readFrom flags fuel rest g

/-- Reads all arguments of a command with the given flags. -/
def readAll (flags : List Flag) (args : List String) : Except FlagError Given :=
  readFrom flags args.length args .empty

end Flag

end GraphWalk
