import GraphWalk.Natives
import GraphWalk.Value.Text
import GraphWalk.Web.RequestLine

/-!
# Standard native bodies

`Print` writes the fields of the position, `EnvVars` reports the variables of the
surroundings, and `HTTPRequest` fetches the address that the position names.
-/

namespace GraphWalk.Natives

/-- Writes the fields of the position, sorted by name, up to the first that has no
text. -/
def printFields : List (String × Value) → Program Unit
  | [] => .done ()
  | (name, v) :: rest =>
    match v.jsonText with
    | .error e => .fail (.within ("field " ++ Text.quote name) (.text e.message))
    | .ok json => do
      Program.print ("      " ++ name ++ " = " ++ json ++ "\n")
      printFields rest

def print : Body where
  form := .native
  run o := do
    Program.log ⟨.info, "Printing position", [("position", .text o.position.text)]⟩
    Program.print (o.here.name ++ " " ++ o.position.text ++ " (" ++ o.event.text ++ ")\n")
    let fields ← Program.fields .here
    match sortKeys fields.toEntries with
    | [] => Program.print "      (no fields)\n"
    | entries => printFields entries

/-- Reports the variables whose names start with `start`, as a map of texts. -/
def environment (start : String) : Body where
  form := .native
  run _ := do
    let vars ← Program.environment
    let named := vars.filter fun (name, _) => name.startsWith start
    Program.report (.map .string (sortKeys
      (named.map fun (name, v) => (Text.canonical name, .text v))))

/-- A text field of the position; without such a field, or with a null, the
fallback. -/
def textField (fields : Fields) (name fallback : String) : Except Fault String :=
  match fields.get name with
  | .error _ | .ok (.null _) => .ok fallback
  | .ok (.string s) => .ok s
  | .ok _ => .error (.text ("field " ++ Text.quote name ++ " must be a string"))

/-- How messages spell a method. -/
def methodTitle (s : String) : String :=
  if s.toList.all fun c => c.toNat < 0x80 then
    String.ofList (s.toList.take 1) ++ (String.ofList (s.toList.drop 1)).toLower
  else s

/-- An address as it is asked for: a port mark without a port is dropped. -/
def requestUrl (u : Url) : Url :=
  if u.host.endsWith ":" then { u with host := (u.host.dropEnd 1).toString } else u

def webRequest : Body where
  form := .native
  run o := do
    let fields ← Program.fields .here
    let raw ← Program.ofExcept (textField fields "url" "")
    if raw = "" then
      .fail (.text (o.here.name ++ " " ++ o.position.text ++ " has no url"))
    else do
      let given ← Program.ofExcept (textField fields "method" "GET")
      Program.log ⟨.info, "Making HTTP request", [("method", .text given), ("url", .text raw)]⟩
      let method := if given = "" then "GET" else given
      if !RequestLine.isMethod method then
        .fail (.within "failed to create request"
          (.text ("net/http: invalid method " ++ Text.quote method)))
      else match Url.parse raw with
        | .error e => .fail (.within "failed to create request" (.text e.message))
        | .ok u => do
          let u := requestUrl u
          match ← Program.fetch method u.text with
          | .error (.transport why) =>
            .fail (.within "failed to execute request" (.within
              (methodTitle method ++ " " ++ Text.quote u.publicText) (.text why)))
          | .error (.unreadable status why) => do
            Program.log ⟨.info, "Received HTTP response", [("status", .text status)]⟩
            .fail (.within "failed to read response body" (.text why))
          | .ok reply => do
            Program.log ⟨.info, "Received HTTP response", [("status", .text reply.status)]⟩
            Program.report (.ofAttrs
              [("status_code", .whole reply.code), ("status", .text reply.status),
                ("body", .text reply.body)])

/-- The standard bodies, of which `EnvVars` shows the variables that start with
`start`. -/
def standard (start : String) : Natives :=
  ⟨[("Print", print), ("EnvVars", environment start), ("HTTPRequest", webRequest)]⟩

end GraphWalk.Natives
