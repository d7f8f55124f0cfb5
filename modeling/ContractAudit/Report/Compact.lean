/-
  The compact report: a line per diagnostic, then a blank line and the number of lines.
-/
import ContractAudit.Report.Basic
import ContractAudit.Text.Line

namespace ContractAudit.Report

/-- The line of a diagnostic. -/
def compactLine (filePath : String) (d : Diagnostic) : String :=
  filePath ++ ": line " ++ Text.showInt d.line ++ ", col " ++ Text.showInt d.column ++ ", " ++
    (if d.isFatal then "Error" else "Warning") ++ " - " ++ d.message ++ " (" ++ d.ruleLink ++ ")"

/-- The compact report; it is empty if there is no diagnostic. -/
def compact (rs : List Report) : String :=
  let lines := rs.flatMap fun r => r.messages.map (compactLine r.filePath)
  if lines.isEmpty then ""
  else Text.joined "\n" (lines ++ ["", counted lines.length "problem"])

end ContractAudit.Report
