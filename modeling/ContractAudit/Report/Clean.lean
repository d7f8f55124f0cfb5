/-
  The line about an analysis that found nothing.
-/
import ContractAudit.Terminal.Console

namespace ContractAudit.Report

/-- Tells that nothing was found in a file, or in a contract of it. -/
def cleanLine (target : String) (contract : Option String) : String :=
  let suffix := match contract with
    | some name => if name = "" then "" else " for contract: " ++ name
    | none => ""
  Terminal.unwrapped ("✔ No errors/warnings found in " ++ target ++ suffix)

end ContractAudit.Report
