/-
  The HTML report: a page with a table per file.

  * `escape` writes the five characters that HTML gives a meaning to as entities.  Every text from
    outside goes through it, so that no such text can open a tag or end an attribute.
-/
import ContractAudit.Report.Narrative

namespace ContractAudit.Html

/-- One character of a text. -/
def escapeChar (c : Char) : List Char :=
  if c == '&' then "&amp;".toList
  else if c == '<' then "&lt;".toList
  else if c == '>' then "&gt;".toList
  else if c == '"' then "&quot;".toList
  else if c == '\'' then "&#x27;".toList
  else [c]

/-- A text as the content of an element or an attribute. -/
def escape (s : String) : String :=
  String.ofList (s.toList.flatMap escapeChar)

/-- The style sheet of the page. -/
def styleSheet : String :=
  "body\x7bfont-family:Arial,Helvetica,sans-serif;margin:20px\x7d" ++
  "table\x7bborder-collapse:collapse;width:100%;margin-bottom:24px\x7d" ++
  "th,td\x7bborder:1px solid #ddd;padding:8px;vertical-align:top\x7d" ++
  "th\x7bbackground:#f2f2f2;text-align:left\x7d" ++
  "tr:nth-child(even)\x7bbackground:#fafafa\x7d" ++
  ".error\x7bcolor:#c0392b;font-weight:bold\x7d" ++
  ".warning\x7bcolor:#b7950b;font-weight:bold\x7d" ++
  "pre\x7bwhite-space:pre-wrap;word-wrap:break-word;margin:0\x7d"

end ContractAudit.Html

namespace ContractAudit.Report

/-- The row of a diagnostic. -/
def htmlRow (d : Diagnostic) : String :=
  let label := if d.isFatal then "error" else "warning"
  let tail := (d.finding.map fun f => f.description.tail).getD ""
  let details := Html.escape d.message ++
    (if tail = "" then "" else "<pre>" ++ Html.escape tail ++ "</pre>")
  let link :=
    if d.ruleLink = noRuleLink then noRuleLink
    else "<a href='" ++ Html.escape d.ruleLink ++ "'>" ++ Html.escape d.ruleLink ++ "</a>"
  "<tr><td>" ++ Text.showInt d.line ++ ":" ++ Text.showInt d.column ++ "&ndash;" ++
    Text.showInt d.endLine ++ ":" ++ Text.showInt d.endColumn ++ "</td>" ++
    "<td class='" ++ label ++ "'>" ++ Html.escape (severityText d label) ++ "</td>" ++
    "<td>" ++ details ++ "</td><td>" ++ link ++ "</td></tr>"

/-- The heading and the table of a file. -/
def htmlTable (r : Report) : List String :=
  ["<h3>" ++ Html.escape r.filePath ++ "</h3>",
    "<table><thead><tr><th>Location</th><th>Severity</th>" ++
      "<th>Issue</th><th>SWC</th></tr></thead><tbody>"] ++
  r.messages.map htmlRow ++ ["</tbody></table>"]

/-- The page of some reports. -/
def html (rs : List Report) : String :=
  let total := Text.showInt (errors rs + warnings rs) ++ " problem(s): " ++
    Text.showInt (errors rs) ++ " error(s), " ++ Text.showInt (warnings rs) ++ " warning(s)"
  Text.joined "\n" <|
    ["<!doctype html>",
      "<html><head><meta charset='utf-8'><title>MythX Report</title>",
      "<style>" ++ Html.styleSheet ++ "</style>",
      "</head><body>",
      "<h2>MythX Report</h2>",
      "<p>" ++ total ++ "</p>"] ++
    rs.flatMap htmlTable ++ ["</body></html>"]

end ContractAudit.Report
