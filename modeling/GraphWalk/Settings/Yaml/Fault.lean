import GraphWalk.Settings.Yaml.Cursor
import GraphWalk.Text.Quoted

/-!
# What is wrong with a document

Most problems are reported with a line: that of the construct they belong to, or
else their own. The first line of a document is never named, and problems that are
found between tokens count lines from zero.
-/

namespace GraphWalk.Yaml

inductive Problem where
  | controlCharacter
  -- tokens
  | keyWithoutColon
  | entryNotAllowed
  | keyNotAllowed
  | valueNotAllowed
  | noToken
  | directiveName
  | directiveCharacter
  | unknownDirective
  | lineEnd
  | versionPoint
  | versionTooLong
  | versionMissing
  | tagMark
  | blankExpected
  | blankOrBreakExpected
  | tagName
  | tagClosing
  | escapedByte
  | leadingByte
  | trailingByte
  | anchorName
  | indentZero
  | tabForIndent
  | tabInIndent
  | documentMarkInQuotes
  | endInQuotes
  | unknownEscape
  | hexDigits
  | codePoint
  -- structure
  | documentStart
  | secondVersion
  | otherVersion
  | secondTagHandle
  | unknownTagHandle
  | nodeExpected
  | entryExpected
  | keyExpected
  | sequenceSeparator
  | mappingSeparator
  -- meaning
  | unknownAnchor (name : String)
  | anchorInItself (name : String)
  | mergeValue
  | collectionKey (shown : String)
  | notOfTag (found text tag : String)
  | base64
  | tooManyReferences
deriving Repr, DecidableEq

def Problem.message : Problem → String
  | .controlCharacter => "control characters are not allowed"
  | .keyWithoutColon => "could not find expected ':'"
  | .entryNotAllowed => "block sequence entries are not allowed in this context"
  | .keyNotAllowed => "mapping keys are not allowed in this context"
  | .valueNotAllowed => "mapping values are not allowed in this context"
  | .noToken => "found character that cannot start any token"
  | .directiveName => "could not find expected directive name"
  | .directiveCharacter => "found unexpected non-alphabetical character"
  | .unknownDirective => "found unknown directive name"
  | .lineEnd => "did not find expected comment or line break"
  | .versionPoint => "did not find expected digit or '.' character"
  | .versionTooLong => "found extremely long version number"
  | .versionMissing => "did not find expected version number"
  | .tagMark => "did not find expected '!'"
  | .blankExpected => "did not find expected whitespace"
  | .blankOrBreakExpected => "did not find expected whitespace or line break"
  | .tagName => "did not find expected tag URI"
  | .tagClosing => "did not find the expected '>'"
  | .escapedByte => "did not find URI escaped octet"
  | .leadingByte => "found an incorrect leading UTF-8 octet"
  | .trailingByte => "found an incorrect trailing UTF-8 octet"
  | .anchorName => "did not find expected alphabetic or numeric character"
  | .indentZero => "found an indentation indicator equal to 0"
  | .tabForIndent => "found a tab character where an indentation space is expected"
  | .tabInIndent => "found a tab character that violates indentation"
  | .documentMarkInQuotes => "found unexpected document indicator"
  | .endInQuotes => "found unexpected end of stream"
  | .unknownEscape => "found unknown escape character"
  | .hexDigits => "did not find expected hexdecimal number"
  | .codePoint => "found invalid Unicode character escape code"
  | .documentStart => "did not find expected <document start>"
  | .secondVersion => "found duplicate %YAML directive"
  | .otherVersion => "found incompatible YAML document"
  | .secondTagHandle => "found duplicate %TAG directive"
  | .unknownTagHandle => "found undefined tag handle"
  | .nodeExpected => "did not find expected node content"
  | .entryExpected => "did not find expected '-' indicator"
  | .keyExpected => "did not find expected key"
  | .sequenceSeparator => "did not find expected ',' or ']'"
  | .mappingSeparator => "did not find expected ',' or '\x7d'"
  | .unknownAnchor name => "unknown anchor '" ++ name ++ "' referenced"
  | .anchorInItself name => "anchor '" ++ name ++ "' value contains itself"
  | .mergeValue => "map merge requires map or sequence of maps as the value"
  | .collectionKey shown => "invalid map key: " ++ shown
  | .notOfTag found text tag =>
    "cannot decode " ++ found ++ " \x60" ++ text ++ "\x60 as a " ++ tag
  | .base64 => "!!binary value contains invalid base64 data"
  | .tooManyReferences => "document contains excessive aliasing"

/-- A problem with the line that is reported, if any. -/
structure Fault where
  problem : Problem
  line : Option Nat
deriving Repr, DecidableEq

namespace Fault

def plain (problem : Problem) : Fault := ⟨problem, none⟩

/-- The line of the construct, or else of the place, unless it is the first. -/
def lineOf (context place : Nat) : Option Nat :=
  if context ≠ 0 then some context else if place ≠ 0 then some place else none

/-- A problem between tokens. -/
def scanning (problem : Problem) (context place : Mark) : Fault :=
  ⟨problem, (lineOf context.line place.line).map (· + 1)⟩

/-- A problem among tokens. -/
def parsing (problem : Problem) (context place : Mark) : Fault :=
  ⟨problem, lineOf context.line place.line⟩

def message (f : Fault) : String :=
  (match f.line with
    | some n => "line " ++ toString n ++ ": "
    | none => "") ++ f.problem.message

end Fault

end GraphWalk.Yaml
