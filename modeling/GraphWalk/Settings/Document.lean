import GraphWalk.Files.Entry
import GraphWalk.Json.Parse
import GraphWalk.Settings.Pairs
import GraphWalk.Settings.Toml.Seen
import GraphWalk.Settings.Yaml.Datum
import GraphWalk.Text.Case

/-!
# Settings files

The ending of a settings file says how it is written. Names of settings are not
sensitive to case.
-/

namespace GraphWalk

/-- Why a settings file gives no settings. -/
inductive DocumentError where
  | unsupported (ending : String)
  | notOpened (path : String) (why : PathFault)
  | isDirectory (path : String)
  | malformed (why : String)
deriving Repr, DecidableEq

def DocumentError.message : DocumentError → String
  | .unsupported ending => "Unsupported Config Type " ++ Text.quote ending
  | .notOpened path why => "open " ++ path ++ ": " ++ why.message
  | .isDirectory path => "read " ++ path ++ ": is a directory"
  | .malformed why => "While parsing config: " ++ why

namespace SettingsDocument

/-- The endings of settings files. Not all of them can be read. -/
def endings : List String :=
  ["json", "toml", "yaml", "yml", "properties", "props", "prop", "hcl", "tfvars", "dotenv", "env",
    "ini"]

/-- What follows the last point in the last segment of a path. -/
def endingOf (path : String) : String :=
  let back := (path.toList.reverse).takeWhile (· ≠ '/')
  if back.contains '.' then String.ofList (back.takeWhile (· ≠ '.')).reverse else ""

def valueOfJson : Json → Option SettingValue
  | .null => none
  | .bool b => some (.switch b)
  | .num s => some (((Number.Double.read? s).map .real).getD (.text s))
  | .str s => some (.text s)
  | .arr _ | .obj _ => some .compound

mutual

/-- The first number that is too large, with the path that leads to it. -/
def tooLarge? (path : List String) : Json → Option (List String × String)
  | .num s => if (Number.Double.read? s).isNone then some (path, s) else none
  | .arr items => tooLargeItem? path 0 items
  | .obj members => tooLargeMember? path members
  | _ => none

def tooLargeItem? (path : List String) (n : Nat) : List Json → Option (List String × String)
  | [] => none
  | j :: rest => (tooLarge? (path ++ [toString n]) j).orElse fun _ => tooLargeItem? path (n + 1) rest

def tooLargeMember? (path : List String) : List (String × Json) → Option (List String × String)
  | [] => none
  | (k, j) :: rest =>
    (tooLarge? (path ++ [Json.pathStep k]) j).orElse fun _ => tooLargeMember? path rest

end

/-- The settings of a JSON document. -/
def settingsOfJson (j : Json) : Except String (List (String × Option SettingValue)) :=
  match j with
  | .null => .ok []
  | .obj members => match tooLarge? [] j with
    | some (path, number) => .error (Json.wrongKind ("number " ++ number) path "float64")
    | none => .ok (members.map fun (k, v) => (k, valueOfJson v))
  | j => .error (Json.wrongKind j.kind [] "map[string]interface \x7b\x7d")

def readJson (text : String) : Except String (List (String × Option SettingValue)) :=
  match Json.readValue text.toList with
  | .error .unexpectedEnd | .error .atEnd => .error "unexpected end of JSON input"
  | .error f => .error f.message
  | .ok (j, rest) => match Json.skipBlanks rest with
    | c :: _ => .error (Json.SyntaxFault.message (.invalid c "after top-level value"))
    | [] => settingsOfJson j

/-- Names that all have values. -/
def allGiven (kvs : List (String × SettingValue)) : List (String × Option SettingValue) :=
  kvs.map fun (k, v) => (k, some v)

/-- Reads a text by the ending of its file: names, with their values if they have
one. -/
def readText (environment : List (String × String)) (ending text : String) :
    Except String (List (String × Option SettingValue)) :=
  match ending with
  | "json" => readJson text
  | "toml" => (Toml.read text).map allGiven
  | "yaml" | "yml" => Yaml.read text
  | "dotenv" | "env" => (Pairs.read environment text).map allGiven
  | _ => .error "decoder not found for this format"

/-- Settings by their names in lower case. A name that is written otherwise goes before
one that is not. -/
def byName (kvs : List (String × Option SettingValue)) : List (String × SettingValue) :=
  let (plain, other) := kvs.partition fun (k, _) => Text.lower k = k
  (sortKeys ((plain ++ other).map fun (k, v) => (Text.lower k, v))).filterMap fun (k, v) =>
    v.map fun v => (k, v)

/-- Reads a settings file. -/
def read (root : Entry) (environment : List (String × String)) (path : String) :
    Except DocumentError (List (String × SettingValue)) :=
  let ending := endingOf path
  if !endings.contains ending then .error (.unsupported ending)
  else match root.resolve path with
    | .error why => .error (.notOpened path why)
    | .ok (.directory _) => .error (.isDirectory path)
    | .ok (.file text) => match readText environment ending text with
      | .error why => .error (.malformed why)
      | .ok kvs => .ok (byName kvs)

end SettingsDocument

end GraphWalk
