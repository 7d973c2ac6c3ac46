import GraphWalk.Text.Bytes
import GraphWalk.Text.Ranges
import GraphWalk.Text.Split
import GraphWalk.Web.IpAddress

/-!
# Addresses

Reading and writing of web addresses: scheme, user, host, path, query and
fragment. Parts are unescaped when they are read; a path keeps its escaped form
if escaping it again would give another one.
-/

namespace GraphWalk

/-- The parts of an address, which differ in what has to be escaped. -/
inductive UrlPart where
  | path
  | user
  | host
  | zone
  | query
  | fragment
deriving Repr, DecidableEq

/-- Why a text is no address. -/
inductive UrlFault where
  | controlCharacter
  | empty
  | noTarget
  | missingScheme
  | colonInFirstSegment
  | missingBracket
  | invalidPort (port : String)
  | invalidUser
  | invalidEscape (bytes : List UInt8)
  | invalidHostCharacter (c : Char)
  | misplacedBracket
  | invalidAddress (text : String) (error : IpAddress.Error)
deriving Repr, DecidableEq

def UrlFault.message : UrlFault → String
  | .controlCharacter => "net/url: invalid control character in URL"
  | .empty => "empty url"
  | .noTarget => "invalid URI for request"
  | .missingScheme => "missing protocol scheme"
  | .colonInFirstSegment => "first path segment in URL cannot contain colon"
  | .missingBracket => "missing ']' in host"
  | .invalidPort port => "invalid port " ++ Text.quote port ++ " after host"
  | .invalidUser => "net/url: invalid userinfo"
  | .invalidEscape bytes => "invalid URL escape " ++ Text.quoteBytes bytes
  | .invalidHostCharacter c => "invalid character " ++ Text.quote c.toString ++ " in host name"
  | .misplacedBracket => "invalid IP-literal"
  | .invalidAddress text e => "invalid host: " ++ e.message text

/-- An address that could not be read, with the reason. -/
structure UrlError where
  text : String
  fault : UrlFault
deriving Repr, DecidableEq

def UrlError.message (e : UrlError) : String :=
  "parse " ++ Text.quote e.text ++ ": " ++ e.fault.message

structure UrlUser where
  name : String
  password : Option String
deriving Repr, DecidableEq, Inhabited

structure Url where
  scheme : String
  /-- What follows the scheme of an address without slashes. -/
  opaqueText : String
  user : Option UrlUser
  host : String
  path : String
  /-- The path as it was written, where that says more than the path. -/
  rawPath : String
  omitHost : Bool
  forceQuery : Bool
  rawQuery : String
  fragment : String
  rawFragment : String
deriving Repr, DecidableEq, Inhabited

namespace Url

def empty : Url := ⟨"", "", none, "", "", "", false, false, "", "", ""⟩

/-- Cuts a text at the first occurrence of a character. -/
def cutAt (c : Char) (cs : List Char) : List Char × Option (List Char) :=
  match cs.dropWhile (· ≠ c) with
  | [] => (cs, none)
  | _ :: rest => (cs.takeWhile (· ≠ c), some rest)

/-- Cuts a text at the last occurrence of a character. -/
def cutAtLast (c : Char) (cs : List Char) : Option (List Char × List Char) :=
  match cutAt c cs.reverse with
  | (_, none) => none
  | (after, some before) => some (before.reverse, after.reverse)

def isAlnum (c : Char) : Bool := c.isAlphanum

/-- Whether a character must be escaped in a part. -/
def mustEscape (part : UrlPart) (c : Char) : Bool :=
  if isAlnum c then false
  else if (part = .host || part = .zone) && "!$&'()*+,;=:[]<>\"".toList.contains c then false
  else if "-_.~".toList.contains c then false
  else if "$&+,/:;=?@".toList.contains c then
    match part with
    | .path => c = '?'
    | .user => "@/?:".toList.contains c
    | .query => true
    | .fragment => false
    | .host | .zone => true
  else if part = .fragment && "!()*".toList.contains c then false
  else true

/-- The bytes of an escape sequence at the start of a text. -/
def escapeAt? : List Char → Option (UInt8 × List Char)
  | a :: b :: rest => do
    let x ← Text.hexDigit? a
    let y ← Text.hexDigit? b
    return ((16 * x + y).toUInt8, rest)
  | _ => none

/-- Whether an escape sequence may stand in a part: hosts admit only bytes that
cannot be written plainly, and the percent sign. -/
def escapeAllowed (part : UrlPart) (b : UInt8) : Bool :=
  match part with
  | .host => b ≥ 0x80 || b = 0x25
  | .zone => b = 0x25 || b = 0x20 || !mustEscape .host (Char.ofNat b.toNat)
  | _ => true

/-- Replaces escape sequences by what they stand for. -/
def unescape (part : UrlPart) (cs : List Char) : Except UrlFault String :=
  go (cs.length + 1) cs []
where
  go : Nat → List Char → List UInt8 → Except UrlFault String
    | 0, _, out => .ok (Text.ofBytes out.reverse)
    | _, [], out => .ok (Text.ofBytes out.reverse)
    | fuel + 1, c :: rest, out =>
      if c = '%' then
        match escapeAt? rest with
        | none => .error (.invalidEscape ((Text.bytes (c :: rest)).take 3))
        | some (b, rest') =>
          if escapeAllowed part b then go fuel rest' (b :: out)
          else .error (.invalidEscape ((Text.bytes (c :: rest)).take 3))
      else if c = '+' && part = .query then go fuel rest (0x20 :: out)
      else if (part = .host || part = .zone) && c.toNat < 0x80 && mustEscape part c then
        .error (.invalidHostCharacter c)
      else go fuel rest ((Text.bytes [c]).reverse ++ out)

/-- Escapes what must be escaped in a part. -/
def escape (part : UrlPart) (s : String) : String :=
  String.ofList (s.toList.flatMap fun c =>
    if c = ' ' && part = .query then ['+']
    else if mustEscape part c then
      (Text.bytes [c]).flatMap fun b => '%' :: (Text.hexPadded 2 b.toNat).map Char.toUpper
    else [c])

/-- Splits off a scheme. A text that cannot start with one has none. -/
def splitScheme (cs : List Char) : Except UrlFault (List Char × List Char) :=
  go cs []
where
  go : List Char → List Char → Except UrlFault (List Char × List Char)
    | [], _ => .ok ([], cs)
    | c :: rest, seen =>
      if c.isAlpha then go rest (c :: seen)
      else if c.isDigit || c = '+' || c = '-' || c = '.' then
        if seen.isEmpty then .ok ([], cs) else go rest (c :: seen)
      else if c = ':' then
        if seen.isEmpty then .error .missingScheme else .ok (seen.reverse, rest)
      else .ok ([], cs)

/-- A port: nothing, or a colon and digits. -/
def isOptionalPort : List Char → Bool
  | [] => true
  | c :: ds => c = ':' && ds.all Char.isDigit

/-- The first place of `%25` in a text, as the texts before and from there. -/
def cutZone : List Char → Option (List Char × List Char)
  | [] => none
  | c :: cs =>
    if (c :: cs).take 3 = ['%', '2', '5'] then some ([], c :: cs)
    else (cutZone cs).map fun (a, b) => (c :: a, b)

/-- The name between brackets, whose zone may hold more than a host name may. -/
def bracketName (cs : List Char) : Except UrlFault String :=
  match cutZone cs with
  | none => unescape .host cs
  | some (address, zone) => do return (← unescape .host address) ++ (← unescape .zone zone)

/-- Reads a host with an optional port. Brackets hold an internet address of the long
form, and stand nowhere else. -/
def parseHost (cs : List Char) : Except UrlFault String :=
  if cs.head? = some '[' && !(cs.drop 1).contains '[' then
    match cutAtLast ']' (cs.drop 1) with
    | none => .error .missingBracket
    | some (inside, port) =>
      if !isOptionalPort port then .error (.invalidPort (String.ofList port))
      else do
        let name ← bracketName inside
        match IpAddress.parse name with
        | .error e => throw (.invalidAddress name e)
        | .ok address =>
          if address.isV4 then throw .misplacedBracket
          else return "[" ++ name ++ "]" ++ String.ofList port
  else if cs.contains '[' then .error .misplacedBracket
  else match cutAtLast ':' cs with
    | some (_, port) =>
      if isOptionalPort (':' :: port) then unescape .host cs
      else .error (.invalidPort (String.ofList (':' :: port)))
    | none => unescape .host cs

def isUserChar (c : Char) : Bool := isAlnum c || "-._:~!$&'()*+,;=%@".toList.contains c

/-- Reads a user with an optional password, and the host behind it. -/
def parseAuthority (cs : List Char) : Except UrlFault (Option UrlUser × String) :=
  match cutAtLast '@' cs with
  | none => do return (none, ← parseHost cs)
  | some (user, host) => do
    let host ← parseHost host
    if !user.all isUserChar then throw .invalidUser
    match cutAt ':' user with
    | (_, none) => return (some ⟨← unescape .user user, none⟩, host)
    | (name, some password) =>
      return (some ⟨← unescape .user name, some (← unescape .user password)⟩, host)

/-- Sets the path from its written form. -/
def withPath (u : Url) (written : List Char) : Except UrlFault Url := do
  let path ← unescape .path written
  let raw := String.ofList written
  return { u with path, rawPath := if escape .path path = raw then "" else raw }

/-- Splits off the query. A single question mark at the end is kept in mind. -/
def splitQuery (cs : List Char) : List Char × Bool × List Char :=
  match cutAt '?' cs with
  | (_, none) => (cs, false, [])
  | (before, some []) => (before, true, [])
  | (before, some query) => (before, false, query)

def hasControl (cs : List Char) : Bool := cs.any fun c => c.toNat < 0x20 || c.toNat = 0x7f

/-- Reads an address without a fragment. The target of a request needs a scheme or
starts with a slash. -/
def parseBody (asTarget : Bool) (cs : List Char) : Except UrlFault Url := do
  if hasControl cs then throw .controlCharacter
  if cs = ['*'] then return { empty with path := "*" }
  let (scheme, rest) ← splitScheme cs
  let (rest, forceQuery, query) := splitQuery rest
  let u : Url := { empty with
    scheme := String.ofList (scheme.map Char.toLower), forceQuery, rawQuery := String.ofList query }
  if rest.head? ≠ some '/' then
    if !scheme.isEmpty then return { u with opaqueText := String.ofList rest }
    if asTarget then throw .noTarget
    if ((cutAt '/' rest).1).contains ':' then throw .colonInFirstSegment
  match rest with
  | '/' :: '/' :: more =>
    if !scheme.isEmpty || more.head? ≠ some '/' then
      let authority := more.takeWhile (· ≠ '/')
      let (user, host) ← parseAuthority authority
      Url.withPath { u with user, host } (more.dropWhile (· ≠ '/'))
    else u.withPath rest
  | _ => Url.withPath { u with omitHost := !scheme.isEmpty && rest.head? = some '/' } rest

/-- Reads an address. -/
def parse (s : String) : Except UrlError Url :=
  let (body, fragment) := cutAt '#' s.toList
  match parseBody false body with
  | .error f => .error ⟨String.ofList body, f⟩
  | .ok u => match fragment with
    | none | some [] => .ok u
    | some fs => match unescape .fragment fs with
      | .error f => .error ⟨s, f⟩
      | .ok text =>
        let raw := String.ofList fs
        .ok { u with fragment := text, rawFragment := if escape .fragment text = raw then "" else raw }

/-- Reads the target of a request: a path with a query, or a whole address. -/
def parseTarget (s : String) : Except UrlError Url :=
  let cs := s.toList
  let result : Except UrlFault Url :=
    if hasControl cs then .error .controlCharacter
    else if cs.isEmpty then .error .empty
    else if cs.head? = some '/' then
      let (path, forceQuery, query) := splitQuery cs
      Url.withPath { empty with forceQuery, rawQuery := String.ofList query } path
    else parseBody true cs
  result.mapError fun f => ⟨s, f⟩

/-- Whether a written form escapes all that must be. -/
def isValidEncoded (part : UrlPart) (s : String) : Bool :=
  s.toList.all fun c => "!$&'()*+,;=:@[]%".toList.contains c || !mustEscape part c

/-- The path in escaped form. -/
def escapedPath (u : Url) : String :=
  if u.rawPath ≠ "" && isValidEncoded .path u.rawPath then u.rawPath
  else if u.path = "*" then "*" else escape .path u.path

def escapedFragment (u : Url) : String :=
  if u.rawFragment ≠ "" && isValidEncoded .fragment u.rawFragment then u.rawFragment
  else escape .fragment u.fragment

def userText (u : UrlUser) : String :=
  escape .user u.name ++ (match u.password with
    | some p => ":" ++ escape .user p
    | none => "")

/-- The part between scheme and path, with the given form of the user. -/
def authorityText (u : Url) (user : Option String) : String :=
  if u.scheme = "" && u.host = "" && u.user.isNone then ""
  else if u.omitHost && u.host = "" && u.user.isNone then ""
  else
    (if u.host ≠ "" || u.path ≠ "" || u.user.isSome then "//" else "")
      ++ (match user with
        | some t => t ++ "@"
        | none => "")
      ++ escape .host u.host

/-- Writes an address, with the given form of the user. -/
def textWith (u : Url) (user : Option String) : String :=
  let start := if u.scheme = "" then "" else u.scheme ++ ":"
  let middle :=
    if u.opaqueText ≠ "" then u.opaqueText
    else
      let front := u.authorityText user
      let path := u.escapedPath
      let slash := if path ≠ "" && path.toList.head? ≠ some '/' && u.host ≠ "" then "/" else ""
      let dot := if start ++ front ++ slash = "" && ((cutAt '/' path.toList).1).contains ':'
        then "./" else ""
      front ++ slash ++ dot ++ path
  start ++ middle
    ++ (if u.forceQuery || u.rawQuery ≠ "" then "?" ++ u.rawQuery else "")
    ++ (if u.fragment ≠ "" then "#" ++ u.escapedFragment else "")

/-- Writes an address. -/
def text (u : Url) : String := u.textWith (u.user.map userText)

/-- Writes an address without showing a password. -/
def publicText (u : Url) : String :=
  u.textWith (u.user.map fun user =>
    if user.password.isSome then user.name ++ ":***" else userText user)

/-- The pairs of a query, in order. A pair that cannot be read, or that holds a
semicolon, is left out. -/
def queryPairs (query : String) : List (String × String) :=
  (Text.splitWhere (· = '&') query.toList).filterMap fun cs =>
    if cs.isEmpty || cs.contains ';' then none
    else
      let (k, v) := cutAt '=' cs
      match unescape .query k, unescape .query (v.getD []) with
      | .ok k, .ok v => some (k, v)
      | _, _ => none

/-- The first value of a query parameter, or nothing. -/
def queryValue (u : Url) (key : String) : String :=
  match (queryPairs u.rawQuery).find? (·.1 = key) with
  | some (_, v) => v
  | none => ""

end Url

end GraphWalk
