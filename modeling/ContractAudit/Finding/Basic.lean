/-
  Findings: what the analysis service reports about a contract, in one shape for all of its
  versions.

  * `Finding` holds identifiers, severity, description, candidate locations and whatever else the
    service attached;
  * `Finding.authoritative?` is the candidate location that counts: the first one that points into
    the text of a Solidity file;
  * `Severity.ofService` is the two-valued severity of reports, and `ruleLink` the page of a rule.
-/
import ContractAudit.Json.Basic

namespace ContractAudit

/-- The severity that reports tell apart. -/
inductive Severity where
  | fatal
  | warning
deriving DecidableEq, Repr, Inhabited

namespace Severity

/-- The name of a severity. -/
def name : Severity → String
  | fatal => "fatal"
  | warning => "warning"

/-- The severity of a name. -/
def ofName? : String → Option Severity
  | "fatal" => some fatal
  | "warning" => some warning
  | _ => none

/-- Only what the service calls high is fatal. -/
def ofService : Option String → Severity
  | some "High" => fatal
  | _ => warning

end Severity

/-- A short and a long description. -/
structure Description where
  head : String := ""
  tail : String := ""
deriving DecidableEq, Repr

/-- A place that a finding may point to. -/
structure Candidate where
  sourceMap : String := ""
  sourceType : String := ""
  sourceFormat : String := ""
  sourceList : List String := []
deriving DecidableEq, Repr

/-- Whether the candidate points into the text of a Solidity file. -/
def Candidate.isText (c : Candidate) : Bool :=
  c.sourceType == "solidity-file" && c.sourceFormat == "text"

/-- A finding of the analysis service. -/
structure Finding where
  swcId : Option String := none
  swcTitle : Option String := none
  severity : Option String := none
  description : Description := {}
  locations : List Candidate := []
  extra : Json.Members := []

namespace Finding

/-- The candidates that point into the text of a Solidity file. -/
def textLocations (f : Finding) : List Candidate :=
  f.locations.filter Candidate.isText

/-- The location that counts. -/
def authoritative? (f : Finding) : Option Candidate :=
  f.textLocations.head?

end Finding

/-- The text that stands for a missing link. -/
def noRuleLink : String := "N/A"

/-- The page of the rule that a finding breaks. -/
def ruleLink : Option String → String
  | none => noRuleLink
  | some id =>
    if id = "" then noRuleLink
    else "https://smartcontractsecurity.github.io/SWC-registry/docs/" ++ id

end ContractAudit
