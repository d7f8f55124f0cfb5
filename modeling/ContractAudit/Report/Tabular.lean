/-
  The tabular report: per file a frame with its path and a table of its diagnostics, then a table of
  the counts per file and a line with the total counts.
-/
import ContractAudit.Report.Listing
import ContractAudit.Report.Narrative
import ContractAudit.Terminal.Markup
import ContractAudit.Text.Upper

namespace ContractAudit.Report

open Terminal

/-- The columns of the table of a file. -/
def tableColumns : List Style := [
  { alignment := .right, fixedWidth := some 5 },
  { alignment := .right, fixedWidth := some 4 },
  { fixedWidth := some 10 },
  { overflow := .fold },
  {}]

/-- The header of the table of a file. -/
def tableHeader : List StyledText :=
  ["Line", "Col", "Severity", "Rule", "Message"].map .plain

/-- The cells of a diagnostic. -/
def tableRow (d : Diagnostic) : List StyledText :=
  [.plain (Text.showInt d.line), .plain (Text.showInt d.column),
    { StyledText.plain (Text.upper (severityText d (label d))) with styled := true },
    { StyledText.plain d.ruleLink with styled := true }, .plain d.message]

/-- A frame without visible lines around a path. -/
def pathFrame (path : String) : List (List Char) :=
  let text := { StyledText.plain path with styled := true }
  blanks pageWidth ::
    ((text.wrap (pageWidth - 4) .fold).map fun l =>
      blanks 2 ++ l.fitted (pageWidth - 4) ++ blanks 2) ++
    [blanks pageWidth]

/-- The lines of one file. -/
def tabularLines (cwd : String) (r : Report) : List (List Char) :=
  [] :: pathFrame (Path.shortened cwd r.filePath) ++
    tableLines pageWidth headed none tableColumns [tableHeader] (r.messages.map tableRow)

/-- The columns of the table of counts. -/
def countColumns : List Style := [
  {},
  { alignment := .right, fixedWidth := some 8 },
  { alignment := .right, fixedWidth := some 8 }]

/-- The cells of a file in the table of counts. Markup in its path takes effect. -/
def countRow (cwd : String) (r : Report) : Except Defect (List StyledText) := do
  let path ← styledText (Path.shortened cwd r.filePath)
  pure [path, .plain (Text.showInt r.errorCount), .plain (Text.showInt r.warningCount)]

/-- The framed table of counts. -/
def countLines (cwd : String) (rs : List Report) : Except Defect (List (List Char)) := do
  let rows ← rs.mapM (countRow cwd)
  let header := [["File", "Errors", "Warnings"].map StyledText.plain]
  let room := pageWidth - 4
  (tableTexts room rounded countColumns header rows).forM StyledText.resolveStyles
  let margin := room - tableSize room rounded countColumns (header ++ rows)
  pure (panelLines rounded pageWidth none
    ((tableLines room rounded (some "Files Summary") countColumns header rows).map
      (· ++ blanks margin)))

/-- The framed line of the total counts. -/
def totalLines (errors warnings : Nat) : List (List Char) :=
  let parts := [counted (errors + warnings) "finding"] ++
    (if errors = 0 then [] else [counted errors "error"]) ++
    (if warnings = 0 then [] else [counted warnings "warning"])
  let text := StyledText.plain (Text.joined " | " parts)
  panelLines rounded pageWidth (some "Summary".toList)
    ((text.wrap (pageWidth - 4) .fold).map (StyledText.fitted (pageWidth - 4)))

/-- The tabular report. -/
def tabular (cwd : String) (rs : List Report) : Except Defect String := do
  let counts ← countLines cwd rs
  pure (page (rs.flatMap (tabularLines cwd) ++ [] :: counts ++
    [] :: totalLines (errors rs) (warnings rs)))

end ContractAudit.Report
