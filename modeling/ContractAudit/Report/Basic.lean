/-
  Reports: the diagnostics of one file with their counts.

  * `Report.ofDiagnostics` counts the fatal diagnostics and the others;
  * `Report.toJson` and `Report.ofJson` write and read the record of a report.
-/
import ContractAudit.Diagnostic
import ContractAudit.Total

namespace ContractAudit

/-- The diagnostics filed under one path. -/
structure Report where
  filePath : String
  errorCount : Nat := 0
  warningCount : Nat := 0
  messages : List Diagnostic := []

namespace Report

/-- The report of a file with these diagnostics. -/
def ofDiagnostics (filePath : String) (messages : List Diagnostic) : Report :=
  { filePath
    errorCount := messages.countP Diagnostic.isFatal
    warningCount := messages.countP fun d => !d.isFatal
    messages }

/-- The record of a report. -/
def toJson (r : Report) : Json :=
  .obj [("file_path", .str r.filePath), ("error_count", .int r.errorCount),
    ("warning_count", .int r.warningCount), ("messages", .arr (r.messages.map Diagnostic.toJson))]

/-- Reads a report. -/
def ofJson : Json.Field Report := fun v => do
  let ms ← Json.Field.object v
  let filePath ← Json.required ms "file_path" .string
  let errorCount ← Json.optional ms "error_count" .natural 0
  let warningCount ← Json.optional ms "warning_count" .natural 0
  let messages ← Json.optional ms "messages" (.list Diagnostic.ofJson) []
  pure { filePath, errorCount, warningCount, messages }

/-- The counted errors of several reports. -/
def errors (rs : List Report) : Nat :=
  total (rs.map errorCount)

/-- The counted warnings of several reports. -/
def warnings (rs : List Report) : Nat :=
  total (rs.map warningCount)

/-- A count with its noun, which gets an `s` unless the count is one. -/
def counted (n : Nat) (noun : String) : String :=
  Text.showInt n ++ " " ++ noun ++ (if n = 1 then "" else "s")

end Report

end ContractAudit
