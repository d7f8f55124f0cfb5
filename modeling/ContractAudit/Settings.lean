/-
  Settings of the client.

  * `Settings.load` reads them from environment variables.  A blank variable counts as missing, and
    blanks around a value are dropped.  A key or a name with a password gives access to the service;
    without either, the trial account does.
  * `Settings.overridden` is the record of settings with other values for some fields.
  * `Mode.schedule` is the time that an analysis of a mode is given.
-/
import ContractAudit.Job.Schedule
import ContractAudit.Json.Access
import ContractAudit.Json.Literal

namespace ContractAudit

/-- Settings that cannot be used. -/
inductive SettingsError where
  /-- A name without a password, or a password without a name. -/
  | incompleteAccount
  /-- An address that is no web address. -/
  | badUrl (url : String)
  /-- A mode that does not exist. -/
  | unknownMode (mode : Json)

/-! ## Modes of analysis -/

/-- How thoroughly a contract is analysed. -/
inductive Mode where
  | quick
  | standard
  | full
  | deep
deriving DecidableEq, Repr

namespace Mode

/-- All modes, in the order of messages. -/
def all : List Mode := [quick, standard, full, deep]

/-- The name of a mode. -/
def name : Mode → String
  | quick => "quick"
  | standard => "standard"
  | full => "full"
  | deep => "deep"

/-- The mode of a name. -/
def ofName? (s : String) : Option Mode :=
  all.find? fun m => m.name == s

/-- The time that an analysis is given. -/
def schedule : Mode → Job.Schedule
  | quick => { initialDelay := .whole 20, timeout := .whole 180 }
  | standard | full => { initialDelay := .whole 900, timeout := .whole 1800 }
  | deep => { initialDelay := .whole 2700, timeout := .whole 5400 }

/-- The mode that a value names. A list or an object names nothing. -/
def ofJson : Json → Except (Fault SettingsError) Mode
  | .arr _ | .obj _ => .error (.defect .wrongKind)
  | .str s => match ofName? s with
    | some m => .ok m
    | none => failWith (.unknownMode (.str s))
  | v => failWith (.unknownMode v)

end Mode

/-- The message of an error. -/
def SettingsError.message : SettingsError → String
  | incompleteAccount => "MYTHX_USERNAME and MYTHX_PASSWORD must be set together"
  | badUrl url => "MYTHX_API_URL must be an http(s) URL, got: " ++ url
  | unknownMode mode => "Invalid analysis mode " ++ mode.literal ++ ". Available modes: " ++
      Text.joined ", " (Mode.all.map Mode.name)

/-! ## Settings -/

/-- The name by which the client introduces itself. -/
def defaultClientName : String := "sabre"

/-- The command that runs the compiler. -/
def defaultCompiler : String := "solc"

/-- Where the service is, how to get access to it, and which compiler to run. -/
structure Settings where
  apiUrl : String
  apiKey : Option String := none
  username : Option String := none
  password : Option String := none
  clientName : String := defaultClientName
  compiler : String := defaultCompiler
deriving DecidableEq, Repr

namespace Settings

/-- The address of the service. -/
def defaultUrl : String := "https://api.mythx.io/v1"

/-- The name of the trial account. -/
def trialName : String := "0x0000000000000000000000000000000000000000"

/-- The password of the trial account. -/
def trialPassword : String := "trial"

/-- Whether the trial account is in use. -/
def usesTrialAccount (s : Settings) : Bool :=
  s.apiKey.isNone && s.username == some trialName

/-- The first value among some variables that holds more than blanks. Null counts as missing. -/
def valueOf? (env : Json.Members) : List String → Except Defect (Option String)
  | [] => .ok none
  | name :: names =>
    match (Keyed.lookup? name env).getD .null with
    | .null => valueOf? env names
    | v => do
      let value := Text.trimmed (← v.asText)
      if value = "" then valueOf? env names else pure (some value)

/-- The text without slashes at its end. -/
def withoutSlashes (s : String) : String :=
  String.ofList (s.toList.reverse.dropWhile (· == '/')).reverse

/-- Whether a text is a web address. -/
def isWebAddress (s : String) : Bool :=
  s.startsWith "http://" || s.startsWith "https://"

/-- The settings in an environment. -/
def load (env : Json.Members) : Except (Fault SettingsError) Settings := do
  let apiKey ← (valueOf? env ["MYTHX_API_KEY"] : Except Defect _)
  let username ← (valueOf? env ["MYTHX_USERNAME", "MYTHX_ETH_ADDRESS"] : Except Defect _)
  let password ← (valueOf? env ["MYTHX_PASSWORD"] : Except Defect _)
  if username.isNone != password.isNone then failWith .incompleteAccount
  let onTrial := apiKey.isNone && username.isNone
  let url := (← (valueOf? env ["MYTHX_API_URL"] : Except Defect _)).getD defaultUrl
  if !isWebAddress url then failWith (.badUrl url)
  let compiler ← (valueOf? env ["SOLC"] : Except Defect _)
  pure {
    apiUrl := withoutSlashes url
    apiKey
    username := if onTrial then some trialName else username
    password := if onTrial then some trialPassword else password
    compiler := compiler.getD defaultCompiler }

/-- The record of settings. -/
def toMembers (s : Settings) : Json.Members :=
  [("api_url", .str s.apiUrl), ("api_key", .ofText? s.apiKey), ("username", .ofText? s.username),
    ("password", .ofText? s.password), ("client_tool_name", .str s.clientName),
    ("solc", .str s.compiler)]

/-- The record with other values for some fields, whatever these are. Null is no value, and there
are no other fields. -/
def overridden (s : Settings) (values : Json.Members) : Except Defect Json.Members :=
  values.foldlM (fun ms (field, value) =>
    match value with
    | .null => .ok ms
    | v => if (Keyed.lookup? field ms).isSome then .ok (Keyed.insert field v ms)
      else .error .wrongKind) s.toMembers

/-- Whether a record of settings uses the trial account. -/
def recordUsesTrialAccount (record : Json.Members) : Bool :=
  match Keyed.lookup? "api_key" record, Keyed.lookup? "username" record with
  | some .null, some (.str name) => name == trialName
  | _, _ => false

end Settings

end ContractAudit
