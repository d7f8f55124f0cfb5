/-
  The aligned listing: per file its path and a row per diagnostic, then the number of problems.

  * Lines are broken at `pageWidth` cells.
-/
import ContractAudit.Path.Basic
import ContractAudit.Report.Basic
import ContractAudit.Terminal.Table

namespace ContractAudit.Report

open Terminal

/-- The width of reports for the terminal. -/
def pageWidth : Nat := 120

/-- Lines one below the other, without line feeds at the end. -/
def page (lines : List (List Char)) : String :=
  let all := ['\n'].intercalate lines
  String.ofList (all.reverse.dropWhile (· == '\n')).reverse

/-- The word for the severity of a diagnostic. -/
def label (d : Diagnostic) : String :=
  if d.isFatal then "error" else "warning"

/-- The columns of the listing: position, severity, message and rule link. -/
def listingColumns : List Style := [
  { alignment := .right, before := 0, after := 2 },
  { before := 0, after := 2 },
  { before := 0, after := 2 },
  { before := 0, after := 0 }]

/-- The cells of a diagnostic. -/
def listingRow (d : Diagnostic) : List StyledText :=
  [.plain ("  " ++ Text.showInt d.line ++ ":" ++ Text.showInt d.column), .plain (label d),
    .plain d.message, .plain d.ruleLink]

/-- The lines of a text. -/
def wrappedLines (s : String) : List (List Char) :=
  ((StyledText.plain s).wrap pageWidth .fold).map StyledText.chars

/-- The lines of one file, with a blank line at the end. -/
def listingLines (cwd : String) (r : Report) : List (List Char) :=
  wrappedLines (Path.shortened cwd r.filePath) ++
    gridLines pageWidth listingColumns (r.messages.map listingRow) ++ [[]]

/-- The line with the number of problems. -/
def problemLine (errors warnings : Nat) : String :=
  "✖ " ++ counted (errors + warnings) "problem" ++ " (" ++ counted errors "error" ++ ", " ++
    counted warnings "warning" ++ ")"

/-- The aligned listing. -/
def listing (cwd : String) (rs : List Report) : String :=
  let total := if errors rs + warnings rs = 0 then []
    else wrappedLines (problemLine (errors rs) (warnings rs))
  page (rs.flatMap (listingLines cwd) ++ total)

end ContractAudit.Report
