/-
  Exchanges with the analysis service.

  * A `Session` is the token in use, the replies that are still to come and the requests that were
    sent.  It outlives a failed exchange.
  * `Exchange.send` sends one request and reads the JSON in its reply.  Nothing is sent twice: a
    lost request, a status of 400 or more and a body that is refused all end the exchange.  Nobody
    provides for a body that nests too deep.
-/
import ContractAudit.Json.Literal
import ContractAudit.Json.Reader
import ContractAudit.Defect

namespace ContractAudit.Service

/-- What a request does. -/
inductive Method where
  | get
  | post
deriving DecidableEq, Repr

/-- The name of a method. -/
def Method.name : Method → String
  | get => "GET"
  | post => "POST"

/-- A request. Its body is null if there is none. -/
structure Request where
  method : Method
  url : String
  /-- The token that authorizes the request, if it needs one. -/
  token : Option Json
  body : Json
  timeout : Json

/-- The headers of a request. -/
def Request.headers (r : Request) : List (String × String) :=
  ("Accept", "application/json") ::
    match r.token with
    | some t => [("Authorization", "Bearer " ++ t.display)]
    | none => []

/-- What becomes of a request. -/
inductive Reply where
  /-- No answer arrived. -/
  | lost (reason : String)
  | answer (status : Int) (body : String)
  /-- The transport itself broke down. -/
  | broken (d : Defect)

/-- Why the service gave no result. -/
inductive Error where
  | transport (method : Method) (url reason : String)
  | rejected (method : Method) (url : String) (status : Int) (body : String)
  | notJson (method : Method) (url : String) (status : Int) (body : String)
  /-- There is neither a key nor a name with a password. -/
  | noCredentials
  /-- The service granted no token. -/
  | noToken
  /-- The service named no job. -/
  | noJob

namespace Error

/-- The message of an error. -/
def message : Error → String
  | transport method url reason => method.name ++ " " ++ url ++ " failed: " ++ reason
  | rejected method url status _ =>
    method.name ++ " " ++ url ++ " returned HTTP " ++ Text.showInt status
  | notJson method url _ _ => method.name ++ " " ++ url ++ " returned a non-JSON body"
  | noCredentials => "No API key or username/password configured"
  | noToken => "Login response did not contain an access token"
  | noJob => "Submission response did not contain a job uuid"

/-- The status of the answer, if one arrived. -/
def status? : Error → Option Int
  | rejected _ _ status _ => some status
  | notJson _ _ status _ => some status
  | _ => none

/-- The body of the answer. -/
def body : Error → String
  | rejected _ _ _ body => body
  | notJson _ _ _ body => body
  | _ => ""

end Error

/-- The state of a conversation with the service. -/
structure Session where
  token : Option Json
  replies : List Reply
  /-- The requests that were sent, in order. -/
  sent : List Request := []

/-- The next reply to come. Without one, the request is lost. -/
def Session.reply (s : Session) : Reply × Session :=
  match s.replies with
  | r :: rest => (r, { s with replies := rest })
  | [] => (.lost "no response scripted", s)

/-- An exchange with the service. -/
abbrev Exchange (α : Type) := ExceptT (Fault Error) (StateM Session) α

namespace Exchange

/-- The result of an exchange and the session after it. -/
def runIn {α : Type} (x : Exchange α) (s : Session) : Except (Fault Error) α × Session :=
  x.run.run s

/-- Ends the exchange with an error. -/
def fail {α : Type} (e : Error) : Exchange α :=
  throw (.error e)

/-- A step without the service. -/
def lift {α : Type} (x : Except Defect α) : Exchange α :=
  match x with
  | .ok a => pure a
  | .error d => throw (.defect d)

/-- Sends a request and reads the JSON in the answer. -/
def send (r : Request) : Exchange Json := do
  let s ← get
  let (reply, s) := { s with sent := s.sent ++ [r] }.reply
  set s
  match reply with
  | .lost reason => fail (.transport r.method r.url reason)
  | .broken d => throw (.defect d)
  | .answer status body =>
    if 400 ≤ status then fail (.rejected r.method r.url status body)
    else
      match Json.parse body with
      | .ok v => pure v
      | .error .malformed => fail (.notJson r.method r.url status body)
      | .error .tooDeep => throw (.defect .endless)

end Exchange

end ContractAudit.Service
