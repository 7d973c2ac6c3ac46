import GraphWalk.Settings.Yaml.Fault

/-!
# Texts over several lines

Plain and quoted texts go on over line breaks: one break reads as a space, and of
several the first is dropped. A block text is what is indented below its mark.
-/

namespace GraphWalk.Yaml

/-- Blanks and line breaks between two words. -/
structure Gap where
  blanks : List Char
  /-- The first line break. -/
  first : List Char
  /-- The other line breaks. -/
  more : List Char
  /-- Whether a line has ended. -/
  broken : Bool
deriving Repr, DecidableEq, Inhabited

def Gap.none : Gap := ⟨[], [], [], false⟩

/-- What a gap stands for between words. -/
def Gap.text (g : Gap) : List Char :=
  if !g.broken then g.blanks
  else if g.first.head? = some '\n' then (if g.more.isEmpty then [' '] else g.more)
  else g.first ++ g.more

/-- Reads a gap. A tab to the left of column `indent` is refused where a line
starts. -/
def readGap (indent : Int) (start : Mark) : Nat → Gap → Cursor → Except Fault (Gap × Cursor)
  | 0, g, c => .ok (g, c)
  | fuel + 1, g, c =>
    match c.rest with
    | [] => .ok (g, c)
    | x :: _ =>
      if isBlank x then
        if g.broken && (c.mark.column : Int) < indent && x = '\t' then
          .error (.scanning .tabInIndent start c.mark)
        else if g.broken then readGap indent start fuel g (c.skip 1)
        else readGap indent start fuel { g with blanks := g.blanks ++ [x] } (c.skip 1)
      else if isBreak x then
        let (b, c) := c.readLine
        if g.broken then readGap indent start fuel { g with more := g.more ++ b } c
        else readGap indent start fuel ⟨[], b, [], true⟩ c
      else .ok (g, c)

/-! ## Plain texts -/

/-- The word at the front of a plain text. A colon before a gap ends it, and inside
brackets so do commas and brackets. -/
def plainWord (flow : Bool) : List Char → List Char
  | [] => []
  | x :: rest =>
    if isGap x then []
    else if x = ':' && atGapOrEnd rest then []
    else if flow && ",?[]\x7b\x7d".toList.contains x then []
    else x :: plainWord flow rest

structure PlainText where
  text : List Char
  /-- What has been passed over behind the text. -/
  gap : Gap
  cursor : Cursor
deriving Inhabited

/-- Reads the rest of a plain text, of which lines below the first are indented. -/
def plainFrom (flow : Bool) (indent : Int) (start : Mark) :
    Nat → PlainText → Except Fault PlainText
  | 0, p => .ok p
  | fuel + 1, p =>
    if p.cursor.atDocumentMark || p.cursor.startsWith '#' then .ok p
    else
      let word := plainWord flow p.cursor.rest
      let c := p.cursor.skip word.length
      let p : PlainText :=
        if word.isEmpty then { p with cursor := c }
        else ⟨p.text ++ p.gap.text ++ word, .none, c⟩
      match c.rest with
      | [] => .ok p
      | x :: _ =>
        if !isGap x then .ok p
        else do
          let (gap, c) ← readGap indent start (c.rest.length + 1) p.gap c
          let p : PlainText := { p with gap, cursor := c }
          if !flow && (c.mark.column : Int) < indent then return p
          else plainFrom flow indent start fuel p

def readPlain (flow : Bool) (indent : Int) (c : Cursor) : Except Fault PlainText :=
  plainFrom flow (indent + 1) c.mark (c.rest.length + 1) ⟨[], .none, c⟩

/-! ## Quoted texts -/

/-- The character of a short escape. -/
def shortEscape? : Char → Option Char
  | '0' => some '\x00'
  | 'a' => some '\x07'
  | 'b' => some '\x08'
  | 't' => some '\t'
  | '\t' => some '\t'
  | 'n' => some '\n'
  | 'v' => some '\x0b'
  | 'f' => some '\x0c'
  | 'r' => some '\r'
  | 'e' => some '\x1b'
  | ' ' => some ' '
  | '"' => some '"'
  | '\'' => some '\''
  | '\\' => some '\\'
  | 'N' => some '\u0085'
  | '_' => some '\u00a0'
  | 'L' => some '\u2028'
  | 'P' => some '\u2029'
  | _ => none

/-- The number of digits of an escape by code point. -/
def escapeWidth? : Char → Option Nat
  | 'x' => some 2
  | 'u' => some 4
  | 'U' => some 8
  | _ => none

/-- Reads an escape behind its backslash. -/
def readEscape (start : Mark) (c : Cursor) : Except Fault (Char × Cursor) :=
  match c.rest with
  | [] => .error (.scanning .unknownEscape start c.mark)
  | e :: rest => match shortEscape? e, escapeWidth? e with
    | some x, _ => .ok (x, c.skip 1)
    | none, none => .error (.scanning .unknownEscape start c.mark)
    | none, some width =>
      let c := c.skip 1
      match (rest.take width).mapM Text.hexDigit? with
      | none => .error (.scanning .hexDigits start c.mark)
      | some ds =>
        let n := ds.foldl (fun n d => 16 * n + d) 0
        if ds.length < width then .error (.scanning .hexDigits start c.mark)
        else if (0xD800 ≤ n && n ≤ 0xDFFF) || n > 0x10FFFF then
          .error (.scanning .codePoint start c.mark)
        else .ok (Char.ofNat n, c.skip width)

/-- Reads characters up to a gap or the closing quote. An escaped line break ends them
too, which is told. -/
def quotedWord (quote : Char) (start : Mark) :
    Nat → List Char → Cursor → Except Fault (List Char × Bool × Cursor)
  | 0, out, c => .ok (out, false, c)
  | fuel + 1, out, c =>
    match c.rest with
    | [] => .ok (out, false, c)
    | x :: rest =>
      if isGap x then .ok (out, false, c)
      else if x = quote then
        if quote = '\'' && rest.head? = some '\'' then
          quotedWord quote start fuel (out ++ ['\'']) (c.skip 2)
        else .ok (out, false, c)
      else if quote = '"' && x = '\\' then
        if !rest.isEmpty && atBreakOrEnd rest then .ok (out, true, (c.skip 1).skipLine)
        else do
          let (y, c) ← readEscape start (c.skip 1)
          quotedWord quote start fuel (out ++ [y]) c
      else quotedWord quote start fuel (out ++ [x]) (c.skip 1)

/-- Reads the rest of a quoted text, and the closing quote. -/
def quotedFrom (quote : Char) (start : Mark) :
    Nat → List Char → Cursor → Except Fault (List Char × Cursor)
  | 0, out, c => .ok (out, c)
  | fuel + 1, out, c =>
    if c.atDocumentMark then .error (.scanning .documentMarkInQuotes start c.mark)
    else if c.rest.isEmpty then .error (.scanning .endInQuotes start c.mark)
    else do
      let (out, broken, c) ← quotedWord quote start (c.rest.length + 1) out c
      if c.startsWith quote then return (out, c.skip 1)
      let (gap, c) ← readGap 0 start (c.rest.length + 1) ⟨[], [], [], broken⟩ c
      quotedFrom quote start fuel (out ++ gap.text) c

/-- Reads a quoted text from its opening quote on. -/
def readQuoted (quote : Char) (c : Cursor) : Except Fault (List Char × Cursor) :=
  quotedFrom quote c.mark (c.rest.length + 1) [] (c.skip 1)

/-! ## Block texts -/

/-- Passes over indentation and empty lines, up to column `indent` if it is known.
Gives the widest indentation, the line breaks and the place. -/
def blockGap (indent : Nat) (start : Mark) :
    Nat → Nat → List Char → Cursor → Except Fault (Nat × List Char × Cursor)
  | 0, widest, breaks, c => .ok (widest, breaks, c)
  | fuel + 1, widest, breaks, c =>
    let spaces := (c.rest.takeWhile (· = ' ')).length
    let c := c.skip (if indent = 0 then spaces else min spaces (indent - c.mark.column))
    let widest := max widest c.mark.column
    if (indent = 0 || c.mark.column < indent) && c.startsWith '\t' then
      .error (.scanning .tabForIndent start c.mark)
    else if !c.rest.isEmpty && atBreakOrEnd c.rest then
      let (b, c) := c.readLine
      blockGap indent start fuel widest (breaks ++ b) c
    else .ok (widest, breaks, c)

/-- What has been read of a block text. -/
structure BlockText where
  text : List Char
  /-- The line break behind the last line. -/
  lastBreak : List Char
  /-- The line breaks of the empty lines behind it. -/
  emptyLines : List Char
  /-- Whether the last line started with a blank. -/
  blankLine : Bool
  cursor : Cursor
deriving Inhabited

/-- Reads lines that start at column `indent`. -/
def blockLines (folded : Bool) (indent : Nat) (start : Mark) :
    Nat → BlockText → Except Fault BlockText
  | 0, b => .ok b
  | fuel + 1, b =>
    let c := b.cursor
    match c.rest with
    | [] => .ok b
    | x :: _ =>
      if c.mark.column ≠ indent then .ok b
      else do
        let joins := folded && !b.blankLine && !isBlank x && b.lastBreak.head? = some '\n'
        let join := if joins then (if b.emptyLines.isEmpty then [' '] else []) else b.lastBreak
        let line := c.rest.takeWhile fun y => !isBreak y
        let (lastBreak, c) := (c.skip line.length).readLine
        let (_, emptyLines, c) ← blockGap indent start (c.rest.length + 1) 0 [] c
        blockLines folded indent start fuel
          ⟨b.text ++ join ++ b.emptyLines ++ line, lastBreak, emptyLines, isBlank x, c⟩

/-- What becomes of the line breaks at the end of a block text. -/
inductive Chomp where
  | clip
  | strip
  | keep
deriving Repr, DecidableEq, Inhabited

def chomp? : Char → Option Chomp
  | '+' => some .keep
  | '-' => some .strip
  | _ => none

/-- A digit of a block header, which says how far the text is indented. -/
def readIncrement (start : Mark) (c : Cursor) : Except Fault (Nat × Cursor) :=
  match c.rest with
  | d :: _ =>
    if d = '0' then .error (.scanning .indentZero start c.mark)
    else if d.isDigit then .ok (d.toNat - '0'.toNat, c.skip 1)
    else .ok (0, c)
  | [] => .ok (0, c)

def readChomp (c : Cursor) : Chomp × Cursor :=
  match c.rest.head?.bind chomp? with
  | some m => (m, c.skip 1)
  | none => (.clip, c)

/-- Reads what a block header says: in either order, a digit and a sign. -/
def readHeader (start : Mark) (c : Cursor) : Except Fault (Chomp × Nat × Cursor) :=
  match c.rest.head?.bind chomp? with
  | some m => do
    let (n, c) ← readIncrement start (c.skip 1)
    return (m, n, c)
  | none => do
    let (n, c) ← readIncrement start c
    if n = 0 then return (.clip, 0, c)
    let (m, c) := readChomp c
    return (m, n, c)

/-- Reads a block text from its mark on, below a construct that is indented by
`outer`. -/
def readBlock (folded : Bool) (outer : Int) (c : Cursor) : Except Fault (List Char × Cursor) := do
  let start := c.mark
  let (chomp, increment, c) ← readHeader start (c.skip 1)
  let c := c.skipWhile isBlank
  let c := if c.startsWith '#' then c.skipWhile fun x => !isBreak x else c
  if !atBreakOrEnd c.rest then throw (.scanning .lineEnd start c.mark)
  let c := c.skipLine
  let given : Nat := if increment = 0 then 0 else (max outer 0).toNat + increment
  let (widest, breaks, c) ← blockGap given start (c.rest.length + 1) 0 [] c
  let indent := if given ≠ 0 then given else max (max widest (outer + 1).toNat) 1
  let b ← blockLines folded indent start (c.rest.length + 1) ⟨[], [], breaks, false, c⟩
  return (b.text ++ (if chomp = .strip then [] else b.lastBreak)
    ++ (if chomp = .keep then b.emptyLines else []), b.cursor)

end GraphWalk.Yaml
