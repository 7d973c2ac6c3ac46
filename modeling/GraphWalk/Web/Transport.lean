import GraphWalk.Body
import GraphWalk.Fault
import GraphWalk.Web.Url

/-!
# Requests without a network

What a request comes to where nothing listens: an address that cannot be asked at
all is told apart, and every other connection is refused.
-/

namespace GraphWalk.Web

/-- The port of a scheme. -/
def defaultPort (scheme : String) : String := if scheme = "https" then "443" else "80"

/-- The host and the port that an address leads to. -/
def endpoint (u : Url) : String × String :=
  match Url.cutAtLast ':' u.host.toList with
  | some (host, port) =>
    if !port.isEmpty && port.all Char.isDigit then (String.ofList host, String.ofList port)
    else (u.host, defaultPort u.scheme)
  | none => (u.host, defaultPort u.scheme)

/-- The largest number of a port. -/
def lastPort : Nat := 65535

/-- Why nothing answers at a host and a port. -/
def dialFault (host port : String) : String :=
  let number := port.toList.foldl (fun n d => 10 * n + (d.toNat - '0'.toNat)) 0
  if number > lastPort then "dial tcp: address " ++ port ++ ": invalid port"
  else "dial tcp " ++ host ++ ":" ++ toString number ++ ": connect: connection refused"

/-- Why no reply comes. -/
def refusal (address : String) : String :=
  match Url.parse address with
  | .error e => e.message
  | .ok u =>
    if u.scheme ≠ "http" && u.scheme ≠ "https" then
      "unsupported protocol scheme " ++ Text.quote u.scheme
    else if u.host = "" then "http: no Host in request URL"
    else
      let (host, port) := endpoint u
      dialFault host port

def refuse (_method address : String) : Except WebFailure WebReply :=
  .error (.transport (refusal address))

end GraphWalk.Web

namespace GraphWalk.Relay

/-! ## Connecting to a trace server

No server ever answers: an attempt ends because the address cannot be read,
because it is called off, or when its time is up. -/

/-- The time given to an attempt by default, in milliseconds. -/
def defaultWait : Nat := 15000

/-- A number of units with three digits behind the point, zeros at the end left
out. -/
def thousandths (n : Nat) : String :=
  if n % 1000 = 0 then toString (n / 1000)
  else
    let digits := (toString (1000 + n % 1000)).toList.drop 1
    toString (n / 1000) ++ "." ++ String.ofList (digits.reverse.dropWhile (· = '0')).reverse

/-- A time span in the largest units that fit. -/
def waitText (ms : Nat) : String :=
  if ms < 1000 then toString ms ++ "ms"
  else if ms < 60000 then thousandths ms ++ "s"
  else
    let seconds := thousandths (ms % 60000) ++ "s"
    let minutes := ms / 60000
    if minutes < 60 then toString minutes ++ "m" ++ seconds
    else toString (minutes / 60) ++ "h" ++ toString (minutes % 60) ++ "m" ++ seconds

/-- Why an attempt fails. -/
def attempt (address : String) (waitMs : Int) (cancelled : Bool) : Fault :=
  match Url.parse address with
  | .error e => .within "failed to parse URL" (.text e.message)
  | .ok _ =>
    if cancelled then .text "context cancelled while waiting for socket.io connection"
    else
      let wait := if waitMs ≤ 0 then defaultWait else waitMs.toNat
      .text ("timed out after " ++ waitText wait ++ " waiting for socket.io connection")

end GraphWalk.Relay
