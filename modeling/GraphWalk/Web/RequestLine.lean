import GraphWalk.Web.Url

/-!
# Request lines

A request starts with a line of three words: its method, its target and the
version of the language that it is written in.
-/

namespace GraphWalk

/-- Why a line starts no request. -/
inductive RequestFault where
  | malformed (line : String)
  | invalidMethod (method : String)
  | invalidVersion (version : String)
  | invalidTarget (error : UrlError)
deriving Repr, DecidableEq

def RequestFault.message : RequestFault → String
  | .malformed line => "malformed HTTP request " ++ Text.quote line
  | .invalidMethod method => "invalid method " ++ Text.quote method
  | .invalidVersion version => "malformed HTTP version " ++ Text.quote version
  | .invalidTarget e => e.message

structure RequestLine where
  method : String
  target : Url
deriving Repr, DecidableEq

namespace RequestLine

/-- Whether a text can be the method of a request. -/
def isMethod (s : String) : Bool :=
  !s.isEmpty && s.toList.all fun c => c.isAlphanum || "!#$%&'*+-.^_`|~".toList.contains c

/-- Whether a text names a version: two digits with a point between them. -/
def isVersion (cs : List Char) : Bool :=
  match cs with
  | ['H', 'T', 'T', 'P', '/', a, '.', b] => a.isDigit && b.isDigit
  | _ => false

/-- The target as it is read: `CONNECT` names a host. -/
def readTarget (method : String) (target : List Char) : Except UrlError Url :=
  if method = "CONNECT" && target.head? ≠ some '/' then do
    let u ← Url.parseTarget ("http://" ++ String.ofList target)
    return { u with scheme := "" }
  else Url.parseTarget (String.ofList target)

/-- Reads the first line of a text. -/
def read (text : String) : Except RequestFault RequestLine :=
  let line := text.toList.takeWhile (· ≠ '\n')
  let line := if line.getLast? = some '\r' then line.dropLast else line
  match Url.cutAt ' ' line with
  | (_, none) => .error (.malformed (String.ofList line))
  | (method, some rest) => match Url.cutAt ' ' rest with
    | (_, none) => .error (.malformed (String.ofList line))
    | (target, some version) =>
      let method := String.ofList method
      if !isMethod method then .error (.invalidMethod method)
      else if !isVersion version then .error (.invalidVersion (String.ofList version))
      else match readTarget method target with
        | .error e => .error (.invalidTarget e)
        | .ok target => .ok ⟨method, target⟩

end RequestLine

end GraphWalk
