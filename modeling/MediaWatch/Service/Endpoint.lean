import MediaWatch.Notice
import MediaWatch.Settings.Settings

/-!
# The health endpoint

`Endpoint.answer` answers the two paths of the endpoint from the report of the watcher: `/healthz` says in a word how
the watcher does, and `/status` hands on its whole report to those who have the token. Degraded and failed watchers are
reported with a successful answer, so that nobody restarts the program because of them.
-/

namespace MediaWatch.Endpoint

open Json

/-- The name under which the endpoint is served. -/
def title : String := "Stump Media Server Events"

/-- The address that it listens on: all of them. -/
def host : String := "0.0.0.0"

/-- The weight of what the server of the endpoint may report. -/
def logLevel : Level := .warning

/-- A request to the endpoint. -/
structure Request where
  method : String
  path : String
  headers : List (String × String)
  deriving Repr, DecidableEq

/-- An answer: its status and body. -/
structure Answer where
  status : Nat
  body : Value

/-- A refusal. -/
def refusal (status : Nat) (detail : String) : Answer := ⟨status, .obj [("detail", .str detail)]⟩

/-- A body of one word. -/
def word (status : String) : Value := .obj [("status", .str status)]

/-- The body of `/healthz`; `none` when the report lacks what it needs. -/
def healthBody : Option Value → Option Value
  | none => some (word "starting")
  | some report => do
    let status ← report.get? "status"
    match status with
    | .str (.plain "degraded") | .str (.plain "failed") =>
      return .obj [("status", status), ("circuit", (report.get? "circuit").getD .null)]
    | _ =>
      let active ← report.get? "active"
      return word (if active.isBlank then "stopped" else "ok")

/-- The body of `/status`. -/
def statusBody (s : Settings) : Option Value → Value
  | none => word "not_ready"
  | some report =>
    .obj [("notifier", report), ("config", .obj [("mode", .str s.eventsMode), ("poll_interval", .num s.pollInterval)])]

/-- The value of a header; its name may be in any case. -/
def Request.header? (r : Request) (name : String) : Option String :=
  (r.headers.find? fun h => h.1.toLower == name.toLower).map (·.2)

/-- Whether a request may see the whole report. -/
def admits (s : Settings) (r : Request) : Bool :=
  match s.serverToken with
  | none => true
  | some token => token.isEmpty || (r.header? "X-Token").map Text.plain == some token

/-- The path without a query or fragment. -/
def Request.plainPath (r : Request) : String :=
  String.ofList (r.path.toList.takeWhile fun c => c != '?' && c != '#')

/-- The answer to a request; `none` when the report lacks what it needs. -/
def answer (s : Settings) (report : Option Value) (r : Request) : Option Answer :=
  let path := r.plainPath
  if path ≠ "/healthz" ∧ path ≠ "/status" then some (refusal 404 "Not Found")
  else if r.method ≠ "GET" then some (refusal 405 "Method Not Allowed")
  else if path = "/healthz" then (healthBody report).map (⟨200, ·⟩)
  else if admits s r then some ⟨200, statusBody s report⟩
  else some (refusal 401 "Invalid token")

end MediaWatch.Endpoint
