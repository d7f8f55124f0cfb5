/-
  The full text report: a block per diagnostic.

  * A block holds the title, severity, file and rule link, the description, the place with its code,
    and the test cases of the finding.
  * `checkPlace` refuses a place with a number that is too long for a numeral.
-/
import ContractAudit.Report.Basic
import ContractAudit.Report.TestCase

namespace ContractAudit.Report

/-- The title of the rule that a diagnostic breaks. -/
def title (d : Diagnostic) : String :=
  match d.finding.bind Finding.swcTitle with
  | some t => if t = "" then "Exception State" else t
  | none => "Exception State"

/-- The severity in the words of the service, or of the report if the service has none. -/
def severityText (d : Diagnostic) (own : String) : String :=
  match d.vendorSeverity with
  | some s => if s = "" then own else s
  | none => own

/-- Start and end of a diagnostic. -/
def placeText (d : Diagnostic) : String :=
  "from " ++ Text.showInt d.line ++ ":" ++ Text.showInt d.column ++
    " to " ++ Text.showInt d.endLine ++ ":" ++ Text.showInt d.endColumn

/-- The place of a diagnostic is written only in numerals within the limit. -/
def checkPlace (d : Diagnostic) : Except Defect Unit :=
  if [d.line, d.column, d.endLine, d.endColumn].all Text.fitsNumeral then .ok ()
  else .error .outOfDomain

/-- The test cases attached to a finding; what is no object is none. -/
def testCases (d : Diagnostic) : Except Defect (List String) := do
  let listed := (d.finding.bind fun f => Keyed.lookup? "testCases" f.extra).getD .null
  let elements ← (listed.orElse (.arr [])).elements
  (elements.filter Json.isObject).mapM TestCase.text

/-- The block of a diagnostic. -/
def narrativeBlock (filePath : String) (d : Diagnostic) : Except Defect String := do
  let header := "==== " ++ title d ++ " ===="
  let separator := String.ofList (List.replicate header.length '-')
  let tail := (d.finding.map fun f => f.description.tail).getD ""
  checkPlace d
  let cases ← testCases d
  pure <| Text.joined "\n" <|
    [header, "Severity: " ++ severityText d d.severity.name, "File: " ++ filePath] ++
    (if d.ruleLink = noRuleLink then [] else ["Link: " ++ d.ruleLink]) ++
    [separator, d.message] ++
    (if tail = "" then [] else [tail]) ++
    [separator, "Location: " ++ placeText d, "", d.snippet.getD "<code not available>"] ++
    cases.flatMap fun c => [separator, c]

/-- The full text report. -/
def narrative (rs : List Report) : Except Defect String := do
  let blocks ← rs.mapM fun r => r.messages.mapM (narrativeBlock r.filePath)
  pure (Text.joined "\n\n" blocks.flatten)

end ContractAudit.Report
