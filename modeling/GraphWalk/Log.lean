import GraphWalk.Fault
import GraphWalk.Json.Basic
import GraphWalk.Text.Split
import GraphWalk.Time

/-!
# Log records and lines

A log record is written on one line, as pairs of names and values or as a JSON
object. Values that could be misread as pairs are quoted.
-/

/-! ## Records -/

namespace GraphWalk

inductive LogLevel where
  | debug
  | info
  | warn
  | error
deriving Repr, DecidableEq, Inhabited

namespace LogLevel

def rank : LogLevel → Nat
  | .debug => 0
  | .info => 1
  | .warn => 2
  | .error => 3

def text : LogLevel → String
  | .debug => "DEBUG"
  | .info => "INFO"
  | .warn => "WARN"
  | .error => "ERROR"

/-- Whether a record of level `l` is kept when `least` is the lowest level kept. -/
def passes (least l : LogLevel) : Bool := least.rank ≤ l.rank

end LogLevel

/-- The value of a log attribute. -/
inductive LogValue where
  | text (s : String)
  | count (n : Nat)
  | names (ns : List String)
deriving Repr, BEq, Inhabited

def LogValue.render : LogValue → String
  | .text s => s
  | .count n => toString n
  | .names ns => bracketed ns

structure LogRecord where
  level : LogLevel
  message : String
  attrs : List (String × LogValue)
deriving Repr, BEq, Inhabited

/-- Puts attributes in front of those of a record. -/
def LogRecord.tagged (tags : List (String × LogValue)) (r : LogRecord) : LogRecord :=
  { r with attrs := tags ++ r.attrs }

end GraphWalk

/-! ## Lines -/

namespace GraphWalk

inductive LogFormat where
  | pairs
  | json
deriving Repr, DecidableEq, Inhabited

namespace LogFormat

/-- Whether a text has to be quoted to stand in a pair. -/
def needsQuotes (s : String) : Bool :=
  s = "" || s.toList.any fun c =>
    if c.toNat < 0x80 then c = ' ' || c = '=' || c = '"' || c.toNat < 0x20
    else c = '\uFFFD' || Text.isSpace c || !Text.isPrintable c

def pairText (s : String) : String := if needsQuotes s then Text.quote s else s

def pair (k v : String) : String := pairText k ++ "=" ++ pairText v

/-- How one character is written in a JSON log line. -/
def jsonChar (c : Char) : List Char :=
  match c with
  | '"' => ['\\', '"']
  | '\\' => ['\\', '\\']
  | '\n' => ['\\', 'n']
  | '\r' => ['\\', 'r']
  | '\t' => ['\\', 't']
  | c =>
    if c.toNat < 0x20 || c.toNat = 0x2028 || c.toNat = 0x2029 then
      '\\' :: 'u' :: Text.hexPadded 4 c.toNat
    else [c]

def jsonText (s : String) : String :=
  String.ofList ('"' :: s.toList.flatMap jsonChar ++ ['"'])

/-- How one character of a name in a list is written: all short escapes are used. -/
def nameChar (c : Char) : List Char :=
  match c with
  | '\x08' => ['\\', 'b']
  | '\x0c' => ['\\', 'f']
  | c => jsonChar c

def nameText (s : String) : String :=
  String.ofList ('"' :: s.toList.flatMap nameChar ++ ['"'])

def jsonValue : LogValue → String
  | .text s => jsonText s
  | .count n => toString n
  | .names [] => "null"
  | .names ns => Json.bracket "[" "]" (ns.map nameText)

/-- The time of a record in a pair, to the millisecond. -/
def pairTime (t : Instant) : String :=
  t.wholeText ++ "." ++ Instant.padded 3 (t.nanos / 1000000) ++ "Z"

/-- A record as a line. -/
def line (f : LogFormat) (time : Instant) (r : LogRecord) : String :=
  match f with
  | .pairs =>
    " ".intercalate (["time=" ++ pairTime time, "level=" ++ r.level.text, pair "msg" r.message]
      ++ r.attrs.map fun (k, v) => pair k v.render) ++ "\n"
  | .json =>
    Json.bracket "\x7b" "\x7d"
      (["\"time\":" ++ jsonText time.shortText, "\"level\":" ++ jsonText r.level.text,
          "\"msg\":" ++ jsonText r.message]
        ++ r.attrs.map fun (k, v) => jsonText k ++ ":" ++ jsonValue v) ++ "\n"

end LogFormat

end GraphWalk
