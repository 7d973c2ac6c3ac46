import GraphWalk.Settings.Yaml.Cursor
import GraphWalk.Settings.Yaml.Text
import GraphWalk.Text.Bytes

/-!
# Dividing a document into tokens

Indentation becomes tokens too: a block starts where a line is indented further, and
ends where one is indented less.

A key is known as one only when its colon is found. Until then its place is
remembered, and the tokens that make it a key are put in front of it afterwards. A
key stands on one line, and its colon follows within 1024 characters.
-/

namespace GraphWalk.Yaml

inductive TokenKind where
  | streamStart
  | streamEnd
  | version (major minor : Nat)
  | tagHandle (handle lead : String)
  | documentStart
  | documentEnd
  | blockSequenceStart
  | blockMappingStart
  | blockEnd
  | flowSequenceStart
  | flowSequenceEnd
  | flowMappingStart
  | flowMappingEnd
  | blockEntry
  | flowEntry
  | key
  | value
  | reference (name : String)
  | anchor (name : String)
  | tag (handle suffix : String)
  | scalar (text : String) (plain : Bool)
deriving Repr, DecidableEq, Inhabited

structure Token where
  kind : TokenKind
  start : Mark
deriving Repr, DecidableEq, Inhabited

/-- The place of a token that may turn out to be a key. -/
structure PossibleKey where
  /-- Whether nothing but a key can stand there. -/
  required : Bool
  /-- The number of the token. -/
  number : Nat
  mark : Mark
deriving Repr, DecidableEq, Inhabited

structure Scanner where
  cursor : Cursor
  /-- All tokens so far. -/
  tokens : Array Token
  /-- How many tokens have been taken. -/
  taken : Nat
  /-- The column of the innermost block; below zero outside of all. -/
  indent : Int
  /-- The columns of the blocks around it. -/
  outer : List Int
  /-- What may be a key, for each level of brackets, the innermost first. -/
  keys : List (Option PossibleKey)
  /-- Whether a key may start here. -/
  keyAllowed : Bool
deriving Inhabited

namespace Scanner

def ofText (cs : List Char) : Scanner :=
  ⟨.ofText cs, #[⟨.streamStart, .start⟩], 0, -1, [], [none], true⟩

def mark (s : Scanner) : Mark := s.cursor.mark

def inFlow (s : Scanner) : Bool := s.keys.length > 1

def fail {α : Type} (s : Scanner) (problem : Problem) (context : Mark) : Except Fault α :=
  .error (.scanning problem context s.mark)

def push (s : Scanner) (kind : TokenKind) (start : Mark) : Scanner :=
  { s with tokens := s.tokens.push ⟨kind, start⟩ }

/-- Puts a token in front of the token with a number. -/
def insert (s : Scanner) (number : Nat) (t : Token) : Scanner :=
  { s with tokens := s.tokens.take number ++ #[t] ++ s.tokens.drop number }

/-! ## Keys -/

/-- Whether a possible key lies too far back. -/
def isStale (s : Scanner) (k : PossibleKey) : Bool :=
  k.mark.line < s.mark.line || k.mark.index + 1024 < s.mark.index

/-- A possible key, if it still is one. -/
def liveKey (s : Scanner) : Option PossibleKey → Except Fault (Option PossibleKey)
  | none => .ok none
  | some k =>
    if !s.isStale k then .ok (some k)
    else if k.required then s.fail .keyWithoutColon k.mark
    else .ok none

def setKey (s : Scanner) (k : Option PossibleKey) : Scanner :=
  { s with keys := k :: s.keys.drop 1 }

/-- Gives up the possible key on this level of brackets. -/
def dropKey (s : Scanner) : Except Fault Scanner :=
  match s.keys with
  | some k :: _ => if k.required then s.fail .keyWithoutColon k.mark else .ok (s.setKey none)
  | _ => .ok s

/-- Remembers that the next token may be a key. -/
def saveKey (s : Scanner) : Except Fault Scanner :=
  if !s.keyAllowed then .ok s
  else do
    let required := !s.inFlow && s.indent = (s.mark.column : Int)
    let s ← s.dropKey
    return s.setKey (some ⟨required, s.tokens.size, s.mark⟩)

def allowKey (s : Scanner) (b : Bool) : Scanner := { s with keyAllowed := b }

/-! ## Indentation -/

/-- Starts a block at a column, unless one is there already. -/
def openBlock (s : Scanner) (column : Nat) (number : Nat) (t : Token) : Scanner :=
  if s.inFlow || s.indent ≥ (column : Int) then s
  else
    let s := { s with outer := s.indent :: s.outer, indent := column }
    s.insert number t

/-- Ends the blocks that start to the right of a column. -/
def closeBlocks (s : Scanner) (column : Int) (place : Mark) : Scanner :=
  if s.inFlow then s else go s.outer s
where
  go : List Int → Scanner → Scanner
    | [], s => s
    | i :: is, s =>
      if s.indent > column then go is ({ s with indent := i, outer := is }.push .blockEnd place)
      else s

/-! ## Blanks and comments -/

/-- A comment is looked for behind fewer blanks and line breaks than this. -/
def commentReach : Nat := 512

/-- Passes over comments, with the blanks and plain line breaks between them. -/
def skipComments : Nat → Cursor → Cursor
  | 0, c => c
  | fuel + 1, c =>
    let c := c.skipWhile fun x => !isBreak x
    let next := c.rest.dropWhile fun x => isGap x && x.toNat < 128
    if next.head? = some '#' && c.rest.length - next.length < commentReach then
      skipComments fuel (c.skipTo next.length c.rest.length)
    else c

/-- Passes over a comment that stands behind a token on its line. -/
def skipLineComment (s : Scanner) : Scanner :=
  let c := s.cursor.skipWhile isBlank
  if c.startsWith '#' && s.cursor.rest.length - c.rest.length < commentReach then
    { s with cursor := c.skipWhile fun x => !isBreak x }
  else s

/-- Passes over everything up to the next token. Where a key may start, a tab is not
passed over. -/
def skipBlanks : Nat → Scanner → Scanner
  | 0, s => s
  | fuel + 1, s =>
    let tabs := s.inFlow || !s.keyAllowed
    let c := s.cursor.skipWhile fun x => x = ' ' || (tabs && x = '\t')
    let c := if c.startsWith '#' then skipComments c.rest.length c else c
    match c.rest with
    | [] => { s with cursor := c }
    | x :: _ =>
      if isBreak x then
        skipBlanks fuel { s with cursor := c.skipLine, keyAllowed := s.keyAllowed || !s.inFlow }
      else { s with cursor := c }

/-! ## Directives, anchors and tags -/

/-- A number of a version. -/
def readVersionNumber (start : Mark) (c : Cursor) : Except Fault (Nat × Cursor) :=
  let ds := c.rest.takeWhile Char.isDigit
  let c' := c.skip ds.length
  if ds.isEmpty then .error (.scanning .versionMissing start c.mark)
  else if ds.length > 2 then .error (.scanning .versionTooLong start (c.skip 2).mark)
  else .ok (ds.foldl (fun n d => 10 * n + (d.toNat - '0'.toNat)) 0, c')

/-- The bytes of one escaped character behind its first percent sign. -/
def readEscapedByte (start : Mark) (c : Cursor) : Except Fault (UInt8 × Cursor) :=
  match c.rest with
  | '%' :: a :: b :: _ => match Text.hexDigit? a, Text.hexDigit? b with
    | some x, some y => .ok ((16 * x + y).toUInt8, c.skip 3)
    | _, _ => .error (.scanning .escapedByte start c.mark)
  | _ => .error (.scanning .escapedByte start c.mark)

/-- The bytes that continue an escaped character. -/
def readTrailingBytes (start : Mark) : Nat → Cursor → Except Fault (List UInt8 × Cursor)
  | 0, c => .ok ([], c)
  | n + 1, c => do
    let (b, c) ← readEscapedByte start c
    if b &&& 0xC0 ≠ 0x80 then throw (.scanning .trailingByte start c.mark)
    let (bs, c) ← readTrailingBytes start n c
    return (b :: bs, c)

/-- One character written as escaped bytes. -/
def readEscapedChar (start : Mark) (c : Cursor) : Except Fault (List Char × Cursor) := do
  let (b, c) ← readEscapedByte start c
  let more ←
    if b &&& 0x80 = 0 then pure 0
    else if b &&& 0xE0 = 0xC0 then pure 1
    else if b &&& 0xF0 = 0xE0 then pure 2
    else if b &&& 0xF8 = 0xF0 then pure 3
    else throw (.scanning .leadingByte start c.mark)
  let (bs, c) ← readTrailingBytes start more c
  return ((Text.ofBytes (b :: bs)).toList, c)

def isTagChar (c : Char) : Bool := isWordChar c || ";/?:@&=+$,.!~*'()[]".toList.contains c

/-- The characters of a tag, escapes included. -/
def readTagChars (start : Mark) : Nat → List Char → Cursor → Except Fault (List Char × Cursor)
  | 0, out, c => .ok (out, c)
  | fuel + 1, out, c =>
    match c.rest with
    | [] => .ok (out, c)
    | x :: _ =>
      if x = '%' then do
        let (ys, c) ← readEscapedChar start c
        readTagChars start fuel (out ++ ys) c
      else if isTagChar x then readTagChars start fuel (out ++ [x]) (c.skip 1)
      else .ok (out, c)

/-- The rest of a tag, which is empty only if `mayBeEmpty`. -/
def readTagRest (start : Mark) (mayBeEmpty : Bool) (c : Cursor) :
    Except Fault (List Char × Cursor) := do
  let (out, c') ← readTagChars start (c.rest.length + 1) [] c
  if out.isEmpty && !mayBeEmpty then throw (.scanning .tagName start c'.mark)
  return (out, c')

/-- A handle: an exclamation mark, and maybe a word and another mark. -/
def readHandle (start : Mark) (directive : Bool) (c : Cursor) :
    Except Fault (List Char × Cursor) :=
  if !c.startsWith '!' then .error (.scanning .tagMark start c.mark)
  else
    let c := c.skip 1
    let word := c.rest.takeWhile isWordChar
    let c := c.skip word.length
    if c.startsWith '!' then .ok ('!' :: word ++ ['!'], c.skip 1)
    else if directive && !word.isEmpty then .error (.scanning .tagMark start c.mark)
    else .ok ('!' :: word, c)

/-- The handle and the rest of a tag. -/
def readTag (c : Cursor) : Except Fault (List Char × List Char × Cursor) := do
  let start := c.mark
  let (handle, suffix, c) ← match c.rest with
    | '!' :: '<' :: _ => do
      let (suffix, c) ← readTagRest start false (c.skip 2)
      if !c.startsWith '>' then throw (.scanning .tagClosing start c.mark)
      pure ([], suffix, c.skip 1)
    | _ => do
      let (handle, c) ← readHandle start false c
      if handle.length > 1 && handle.getLast? = some '!' then
        let (suffix, c) ← readTagRest start false c
        pure (handle, suffix, c)
      else
        let (more, c) ← readTagRest start true c
        let suffix := handle.drop 1 ++ more
        pure (if suffix.isEmpty then ([], ['!'], c) else (['!'], suffix, c))
  if !atGapOrEnd c.rest then throw (.scanning .blankOrBreakExpected start c.mark)
  return (handle, suffix, c)

/-- The name of an anchor, or of a reference to one. -/
def readAnchor (c : Cursor) : Except Fault (List Char × Cursor) :=
  let start := c.mark
  let name := (c.rest.drop 1).takeWhile isWordChar
  let c := c.skip (name.length + 1)
  let ended := atGapOrEnd c.rest || (match c.rest with
    | x :: _ => "?:,]\x7d%@\x60".toList.contains x
    | [] => true)
  if name.isEmpty || !ended then .error (.scanning .anchorName start c.mark)
  else .ok (name, c)

/-- What a directive says. -/
def readDirective (c : Cursor) : Except Fault (TokenKind × Cursor) := do
  let start := c.mark
  let c := c.skip 1
  let name := c.rest.takeWhile isWordChar
  let c := c.skip name.length
  if name.isEmpty then throw (.scanning .directiveName start c.mark)
  if !atGapOrEnd c.rest then throw (.scanning .directiveCharacter start c.mark)
  let (kind, c) ← match String.ofList name with
    | "YAML" => do
      let (major, c) ← readVersionNumber start (c.skipWhile isBlank)
      if !c.startsWith '.' then throw (.scanning .versionPoint start c.mark)
      let (minor, c) ← readVersionNumber start (c.skip 1)
      pure (.version major minor, c)
    | "TAG" => do
      let (handle, c) ← readHandle start true (c.skipWhile isBlank)
      if !(c.head?.map isBlank).getD false then throw (.scanning .blankExpected start c.mark)
      let (lead, c) ← readTagRest start false (c.skipWhile isBlank)
      if !atGapOrEnd c.rest then throw (.scanning .blankOrBreakExpected start c.mark)
      pure (.tagHandle (String.ofList handle) (String.ofList lead), c)
    | _ => throw (.scanning .unknownDirective start c.mark)
  let c := c.skipWhile isBlank
  let c := if c.startsWith '#' then c.skipWhile fun x => !isBreak x else c
  if !atBreakOrEnd c.rest then throw (.scanning .lineEnd start c.mark)
  return (kind, c.skipLine)

/-! ## Tokens -/

/-- Adds a token of a number of characters. -/
def take (s : Scanner) (kind : TokenKind) (n : Nat) : Scanner :=
  { s.push kind s.mark with cursor := s.cursor.skip n }

/-- Ends the document: a last line without a break counts as ended. -/
def fetchEnd (s : Scanner) : Except Fault Scanner := do
  let m := s.mark
  let m : Mark := if m.column ≠ 0 then ⟨m.index, m.line + 1, 0⟩ else m
  let s := { s with cursor := ⟨[], m⟩ }.closeBlocks (-1) m
  let s ← s.dropKey
  return (s.allowKey false).push .streamEnd m

def fetchDirective (s : Scanner) : Except Fault Scanner := do
  let s ← (s.closeBlocks (-1) s.mark).dropKey
  let (kind, cursor) ← readDirective s.cursor
  return { (s.allowKey false).push kind s.mark with cursor }

def fetchDocumentMark (s : Scanner) (kind : TokenKind) : Except Fault Scanner := do
  let s ← (s.closeBlocks (-1) s.mark).dropKey
  return (s.allowKey false).take kind 3

def fetchFlowStart (s : Scanner) (kind : TokenKind) : Except Fault Scanner := do
  let s ← s.saveKey
  return ({ s with keys := none :: s.keys }.allowKey true).take kind 1

def fetchFlowEnd (s : Scanner) (kind : TokenKind) : Except Fault Scanner := do
  let s ← s.dropKey
  let s := if s.inFlow then { s with keys := s.keys.drop 1 } else s
  return (s.allowKey false).take kind 1

def fetchFlowEntry (s : Scanner) : Except Fault Scanner := do
  let s ← s.dropKey
  return (s.allowKey true).take .flowEntry 1

def fetchBlockEntry (s : Scanner) : Except Fault Scanner := do
  if !s.inFlow && !s.keyAllowed then s.fail .entryNotAllowed s.mark
  let s := s.openBlock s.mark.column s.tokens.size ⟨.blockSequenceStart, s.mark⟩
  let s ← s.dropKey
  return (s.allowKey true).take .blockEntry 1

def fetchKey (s : Scanner) : Except Fault Scanner := do
  if !s.inFlow && !s.keyAllowed then s.fail .keyNotAllowed s.mark
  let s := s.openBlock s.mark.column s.tokens.size ⟨.blockMappingStart, s.mark⟩
  let s ← s.dropKey
  return (s.allowKey (!s.inFlow)).take .key 1

/-- A colon: what may have been a key is one. -/
def fetchValue (s : Scanner) : Except Fault Scanner := do
  match ← s.liveKey (s.keys.head?.getD none) with
  | some k =>
    let s := s.insert k.number ⟨.key, k.mark⟩
    let s := s.openBlock k.mark.column k.number ⟨.blockMappingStart, k.mark⟩
    return ((s.setKey none).allowKey false).take .value 1
  | none =>
    let s := s.setKey none
    if !s.inFlow && !s.keyAllowed then s.fail .valueNotAllowed s.mark
    let s := s.openBlock s.mark.column s.tokens.size ⟨.blockMappingStart, s.mark⟩
    return (s.allowKey (!s.inFlow)).take .value 1

def fetchAnchor (s : Scanner) (kind : String → TokenKind) : Except Fault Scanner := do
  let s ← s.saveKey
  let (name, cursor) ← readAnchor s.cursor
  return { (s.allowKey false).push (kind (String.ofList name)) s.mark with cursor }

def fetchTag (s : Scanner) : Except Fault Scanner := do
  let s ← s.saveKey
  let (handle, suffix, cursor) ← readTag s.cursor
  let kind := TokenKind.tag (String.ofList handle) (String.ofList suffix)
  return { (s.allowKey false).push kind s.mark with cursor }

def fetchBlockText (s : Scanner) (folded : Bool) : Except Fault Scanner := do
  let s ← s.dropKey
  let (text, cursor) ← readBlock folded s.indent s.cursor
  return { (s.allowKey true).push (.scalar (String.ofList text) false) s.mark with cursor }

def fetchQuoted (s : Scanner) (quote : Char) : Except Fault Scanner := do
  let s ← s.saveKey
  let (text, cursor) ← readQuoted quote s.cursor
  return { (s.allowKey false).push (.scalar (String.ofList text) false) s.mark with cursor }

def fetchPlain (s : Scanner) : Except Fault Scanner := do
  let s ← s.saveKey
  let p ← readPlain s.inFlow s.indent s.cursor
  let s := { (s.allowKey p.gap.broken).push (.scalar (String.ofList p.text) true) s.mark with
    cursor := p.cursor }
  return if p.gap.broken then s else s.skipLineComment

/-- Characters that start no plain text. -/
def isIndicator (c : Char) : Bool := "-?:,[]\x7b\x7d#&*!|>'\"%@\x60".toList.contains c

/-- Reads a token that starts with `x`, behind which `rest` follows. -/
def fetchToken (s : Scanner) (x : Char) (rest : List Char) : Except Fault Scanner :=
  match x with
  | '[' => (s.fetchFlowStart .flowSequenceStart).map skipLineComment
  | '\x7b' => (s.fetchFlowStart .flowMappingStart).map skipLineComment
  | ']' => (s.fetchFlowEnd .flowSequenceEnd).map skipLineComment
  | '\x7d' => (s.fetchFlowEnd .flowMappingEnd).map skipLineComment
  | ',' => s.fetchFlowEntry.map skipLineComment
  | '*' => (s.fetchAnchor .reference).map skipLineComment
  | '&' => (s.fetchAnchor .anchor).map skipLineComment
  | '!' => s.fetchTag.map skipLineComment
  | '\'' => (s.fetchQuoted '\'').map skipLineComment
  | '"' => (s.fetchQuoted '"').map skipLineComment
  | _ =>
    if x = '-' && atGapOrEnd rest then s.fetchBlockEntry
    else if x = '?' && (s.inFlow || atGapOrEnd rest) then s.fetchKey.map skipLineComment
    else if x = ':' && (s.inFlow || atGapOrEnd rest) then s.fetchValue.map skipLineComment
    else if x = '|' && !s.inFlow then s.fetchBlockText false
    else if x = '>' && !s.inFlow then s.fetchBlockText true
    else if x = '-' || ((x = '?' || x = ':') && !s.inFlow) || !(isGap x || isIndicator x)
    then s.fetchPlain
    else s.fail .noToken s.mark

/-- Reads the next token, with the tokens that go before it. -/
def fetch (s : Scanner) : Except Fault Scanner :=
  let place := s.mark
  let s := skipBlanks (s.cursor.rest.length + 1) s
  let s := s.closeBlocks s.mark.column place
  match s.cursor.rest with
  | [] => s.fetchEnd
  | x :: rest =>
    if s.mark.column = 0 && x = '%' then s.fetchDirective
    else if s.cursor.atDocumentMark then
      s.fetchDocumentMark (if x = '-' then .documentStart else .documentEnd)
    else s.fetchToken x rest

/-- Reads tokens until the next one to take is settled: two more are known behind it,
and it cannot turn out to be a key any more. -/
def settle : Nat → Scanner → Except Fault Scanner
  | 0, s => .ok s
  | fuel + 1, s => do
    if s.taken + 2 < s.tokens.size then
      let key := (s.keys.find? fun k => (k.map (·.number)) = some s.taken).getD none
      match ← s.liveKey key with
      | none => return s
      | some _ => settle fuel (← s.fetch)
    else settle fuel (← s.fetch)

/-- The next token to take. -/
def peek (s : Scanner) : Except Fault (Token × Scanner) := do
  let s ← settle (2 * s.cursor.rest.length + 8) s
  return (s.tokens.getD s.taken ⟨.streamEnd, s.mark⟩, s)

end Scanner

end GraphWalk.Yaml
