import GraphWalk.Settings.Value
import GraphWalk.Text.Bytes

/-!
# What is wrong with a TOML document

Characters are named by their first byte, with the character that has that number.
-/

namespace GraphWalk.Toml

/-- The kinds of entries that a key can stand for. -/
inductive EntryKind where
  | value
  | table
  | arrayTable
deriving Repr, DecidableEq, Inhabited

def EntryKind.text : EntryKind → String
  | .value => "value"
  | .table => "table"
  | .arrayTable => "array table"

inductive Problem where
  -- lines and keys
  | newlineExpected (c : Char)
  | returnAtEnd
  | returnAlone
  | commentCharacter
  | keyMissing
  | keyStart (c : Char)
  | documentEndsAfterKey
  | expected (c : Char)
  | expectedAtEnd (c : Char)
  -- values
  | valueMissing
  | word (w : String)
  | numberMissing
  | letterInNumber (c : Char)
  | arrayOpen
  | arrayComma
  | arraySeparator
  | tableOpen
  -- texts
  | literalNewline
  | literalCharacter
  | literalOpen
  | literalQuotes
  | literalLinesOpen
  | basicNewline
  | basicOpen
  | basicQuotes
  | basicLinesOpen
  | backslashAtEnd
  | lineFeedExpected
  | unreadableText
  | textCharacter (c : Char)
  | escape (c : Char)
  | codeTooShort (width given : Nat)
  | codeDigit
  | codeRange
  -- numbers
  | underscoreFirst
  | underscoreLast
  | underscoreTwice
  | underscoreBeforeExponent
  | underscoreAfterExponent
  | underscoreBeforePoint
  | underscoreAfterPoint
  | leadingZero
  | wholeNumber (base digits : String) (fault : Whole.ReadFault)
  | pointFirst
  | pointLast
  | secondPoint
  | digitBeforePoint
  | digitAfterPoint
  | realLeadingZero
  | realNumber (digits : String) (fault : Whole.ReadFault)
  -- dates
  | digitExpected
  | dateForm
  | impossibleDate
  | momentForm
  | momentSeparator
  | momentRest
  | timeForm
  | timeRest
  | hourRange
  | minuteColon
  | minuteRange
  | secondColon
  | secondRange
  | fractionDigit
  | fractionEmpty
  | zoneForm
  | zoneSign
  | zoneColon
  | zoneHours
  | zoneMinutes
  | zoneRest
  -- keys that clash
  | keyTwice (key : String)
  | notTable (key : String) (kind : EntryKind)
  | tableExpected (key : String) (kind : EntryKind)
  | tableTwice (key : String)
  | tableClosed (key : String)
  | notArrayTable (key : String) (kind : EntryKind)
deriving Repr, DecidableEq

/-- A character by its number, and itself if it can be seen. -/
def shownCode (c : Char) : String :=
  let c := Text.firstByte c
  "U+" ++ String.ofList ((Text.hexPadded 4 c.toNat).map Char.toUpper)
    ++ (if Text.isPrintable c then " '" ++ c.toString ++ "'" else "")

/-- What reading a number of 64 bits says. -/
def parsingText (reader digits : String) (fault : Whole.ReadFault) : String :=
  reader ++ ": parsing " ++ Text.quote digits ++ ": " ++ fault.message

def Problem.message : Problem → String
  | .newlineExpected c => "expected newline but got " ++ shownCode c
  | .returnAtEnd => "windows new line expected"
  | .returnAlone => "windows new line should be \\r\\n"
  | .commentCharacter => "invalid character in comment"
  | .keyMissing => "expected key but found none"
  | .keyStart c => "invalid character at start of key: " ++ (Text.firstByte c).toString
  | .documentEndsAfterKey => "expected = after a key, but the document ends there"
  | .expected c => "expected character " ++ c.toString
  | .expectedAtEnd c => "expected character " ++ c.toString ++ " but the document ended here"
  | .valueMissing => "expected value, not eof"
  | .word w => "expected '" ++ w ++ "'"
  | .numberMissing => "incomplete number"
  | .letterInNumber c =>
    "unexpected character '" ++ c.toString ++ "' while scanning for a number"
  | .arrayOpen => "array is incomplete"
  | .arrayComma => "array cannot start with comma"
  | .arraySeparator => "array elements must be separated by commas"
  | .tableOpen => "inline table is incomplete"
  | .literalNewline => "literal strings cannot have new lines"
  | .literalCharacter => "invalid character"
  | .literalOpen => "unterminated literal string"
  | .literalQuotes => "''' not allowed in multiline literal string"
  | .literalLinesOpen => "multiline literal string not terminated by '''"
  | .basicNewline => "basic strings cannot have new lines"
  | .basicOpen => "basic string not terminated by \""
  | .basicQuotes => "\"\"\" not allowed in multiline basic string"
  | .basicLinesOpen => "multiline basic string not terminated by \"\"\""
  | .backslashAtEnd => "need a character after \\"
  | .lineFeedExpected => "need a \\n after \\r"
  | .unreadableText => "invalid UTF-8"
  | .textCharacter c => "invalid character " ++ shownCode c
  | .escape c => "invalid escaped character " ++ shownCode c
  | .codeTooShort width given =>
    "unicode point needs " ++ toString width ++ " character, not " ++ toString given
  | .codeDigit => "non-hex character"
  | .codeRange => "escape sequence is invalid Unicode code point"
  | .underscoreFirst => "number cannot start with underscore"
  | .underscoreLast => "number cannot end with underscore"
  | .underscoreTwice => "number must have at least one digit between underscores"
  | .underscoreBeforeExponent => "cannot have underscore before exponent"
  | .underscoreAfterExponent => "cannot have underscore after exponent"
  | .underscoreBeforePoint => "cannot have underscore before decimal point"
  | .underscoreAfterPoint => "cannot have underscore after decimal point"
  | .leadingZero => "leading zero not allowed on decimal number"
  | .wholeNumber base digits fault =>
    "couldn't parse " ++ base ++ " number: " ++ parsingText "strconv.ParseInt" digits fault
  | .pointFirst => "float cannot start with a dot"
  | .pointLast => "float cannot end with a dot"
  | .secondPoint => "float can have at most one decimal point"
  | .digitBeforePoint => "float decimal point must be preceded by a digit"
  | .digitAfterPoint => "float decimal point must be followed by a digit"
  | .realLeadingZero => "float integer part cannot have leading zeroes"
  | .realNumber digits fault =>
    "unable to parse float: " ++ parsingText "strconv.ParseFloat" digits fault
  | .digitExpected => "expected digit (0-9)"
  | .dateForm => "dates are expected to have the format YYYY-MM-DD"
  | .impossibleDate => "impossible date"
  | .momentForm =>
    "local datetimes are expected to have the format YYYY-MM-DDTHH:MM:SS[.NNNNNNNNN]"
  | .momentSeparator => "datetime separator is expected to be T or a space"
  | .momentRest => "extra characters at the end of a local date time"
  | .timeForm => "times are expected to have the format HH:MM:SS[.NNNNNN]"
  | .timeRest => "extra characters at the end of a local time"
  | .hourRange => "hour cannot be greater 23"
  | .minuteColon => "expecting colon between hours and minutes"
  | .minuteRange => "minutes cannot be greater 59"
  | .secondColon => "expecting colon between minutes and seconds"
  | .secondRange => "seconds cannot be greater 60"
  | .fractionDigit => "need at least one digit after fraction point"
  | .fractionEmpty => "nanoseconds need at least one digit"
  | .zoneForm => "invalid date-time timezone"
  | .zoneSign => "invalid timezone offset character"
  | .zoneColon => "expected a : separator"
  | .zoneHours => "invalid timezone offset hours"
  | .zoneMinutes => "invalid timezone offset minutes"
  | .zoneRest => "extra bytes at the end of the timezone"
  | .keyTwice key => "key " ++ key ++ " is already defined"
  | .notTable key kind => "expected " ++ key ++ " to be a table, not a " ++ kind.text
  | .tableExpected key kind => "key " ++ key ++ " should be a table, not a " ++ kind.text
  | .tableTwice key => "table " ++ key ++ " already exists"
  | .tableClosed key =>
    "cannot redefine table " ++ key ++ " that has already been explicitly defined"
  | .notArrayTable key kind =>
    "key " ++ kind.text ++ " already exists as a " ++ key ++ ",  but should be an array table"

end GraphWalk.Toml
