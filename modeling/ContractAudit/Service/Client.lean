/-
  A client of the analysis service.

  * A `Client` knows the address of the service and an account.  Requests that need a token log in
    first if there is none yet; a token stays in use from then on.
  * There is one function per question that the service answers.  `queryStatus` reads the status of
    a job, of which only `finished` and `error` are told apart from what is still pending.
-/
import ContractAudit.Finding.Issue
import ContractAudit.Job.State
import ContractAudit.Json.Access
import ContractAudit.Json.Record
import ContractAudit.Service.Exchange
import ContractAudit.Settings

namespace ContractAudit.Service

/-- Where the service is and who asks. -/
structure Client where
  /-- The address, without slashes at its end. -/
  url : String
  username : Json
  password : Json
  timeout : Json

/-- The client of an address, and its account. -/
def Client.ofAddress (url : String) (username password timeout : Json) : Client :=
  { url := Settings.withoutSlashes url, username, password, timeout }

/-- The client of some settings. -/
def Client.ofSettings (s : Settings) : Client :=
  .ofAddress s.apiUrl (.ofText? s.username) (.ofText? s.password) (.int 30)

/-- The page that shows an analysis. -/
def dashboardUrl (job : Json) : String :=
  "https://dashboard.mythx.io/#/console/analyses/" ++ job.display

/-- The member of a value that is an object, and null of any other value. -/
def memberOrNull (v : Json) (key : String) : Json :=
  match v with
  | .obj ms => (Keyed.lookup? key ms).getD .null
  | _ => .null

/-- The status that a word of the service stands for; no word stands for pending. -/
def jobStatus (word : Json) : Except Defect Job.Status :=
  if word.isSet then word.asText.map Job.Status.ofService else .ok .pending

/-- What the status record of a job shows. -/
def observation (statusRecord : Json) : Except Defect Job.Observation := do
  let word := memberOrNull statusRecord "status"
  let status ← jobStatus word
  let vendorStatus ← Json.Field.nullable .string word
  pure { status, vendorStatus }

namespace Client

/-- The address of a resource. -/
def resource (c : Client) (path : String) : String :=
  c.url ++ "/" ++ path

/-- A request that needs no token. -/
def openRequest (c : Client) (method : Method) (path : String) (body : Json) : Request :=
  { method, url := c.resource path, token := none, body, timeout := c.timeout }

/-- Whether the client has a name and a password. -/
def hasAccount (c : Client) : Bool :=
  c.username.isSet && c.password.isSet

/-- The token in the answer to a login. -/
def grantedToken (answer : Json) : Exchange Json := do
  let tokens := (memberOrNull answer "jwtTokens").orElse (.obj [])
  let token ← Exchange.lift (tokens.get "access")
  if token.isSet then pure token else Exchange.fail .noToken

/-- Exchanges name and password for a token. -/
def login (c : Client) : Exchange Json := do
  if !c.hasAccount then Exchange.fail .noCredentials
  let answer ← Exchange.send (c.openRequest .post "auth/login"
    (.obj [("username", c.username), ("password", c.password)]))
  let token ← grantedToken answer
  modify fun s => { s with token := some token }
  pure token

/-- The token in use, after a login if there is none. -/
def token (c : Client) : Exchange Json := do
  match (← get).token with
  | some t => pure t
  | none => c.login

/-- Sends a request that needs a token. -/
def ask (c : Client) (method : Method) (path : String) (body : Json) : Exchange Json := do
  let t ← c.token
  Exchange.send { c.openRequest method path body with token := some t }

/-- The versions of the service. -/
def apiVersion (c : Client) : Exchange Json :=
  Exchange.send (c.openRequest .get "version" .null)

/-- Submits a body for analysis and names the job. The body may come as a list of pairs. -/
def submit (c : Client) (body : Json) : Exchange Json := do
  let members ← Exchange.lift body.toMembers
  let answer ← c.ask .post "analyses" (.obj members)
  let job := memberOrNull answer "uuid"
  if job.isSet then pure job else Exchange.fail .noJob

/-- The path of a job. -/
def jobPath (job : Json) : String :=
  "analyses/" ++ job.display

/-- The status record of a job. -/
def statusRecord (c : Client) (job : Json) : Exchange Json :=
  c.ask .get (jobPath job) .null

/-- The status of a job. -/
def queryStatus (c : Client) (job : Json) : Exchange Job.Observation := do
  let answer ← c.statusRecord job
  Exchange.lift (observation answer)

/-- The issue reports of a finished job. -/
def issues (c : Client) (job : Json) : Exchange Json :=
  c.ask .get (jobPath job ++ "/issues") .null

/-- The submitted analyses. -/
def analyses (c : Client) : Exchange Json :=
  c.ask .get "analyses" .null

end Client

end ContractAudit.Service
