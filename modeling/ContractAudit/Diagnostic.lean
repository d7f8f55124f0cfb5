/-
  Diagnostics: findings with a file, a position and a severity.

  * `Diagnostic.ofFinding` fails only if the authoritative location of the finding has a token that
    is no source map entry.  Without a text, or without a file, the position stays unresolved: line
    -1 and column 0.
  * `Diagnostic.identity` is the text that two diagnostics share if and only if they agree in
    everything but the finding they come from.  Its texts are Unicode texts, without halves of
    surrogate pairs, so there always is one.
-/
import ContractAudit.Finding.File
import ContractAudit.Finding.Record
import ContractAudit.Json.Writer
import ContractAudit.SourceMap.Excerpt
import ContractAudit.SourceMap.LineTable

namespace ContractAudit

/-- The path of findings without a file. -/
def unknownFile : String := "<unknown>"

/-- A finding resolved to a file and a range of lines and columns. -/
structure Diagnostic where
  filePath : String
  message : String
  severity : Severity := .warning
  /-- Counts from 1; -1 if the position is unresolved. -/
  line : Int := -1
  column : Nat := 0
  endLine : Int := -1
  endColumn : Nat := 0
  ruleLink : String := noRuleLink
  vendorSeverity : Option String := none
  snippet : Option String := none
  finding : Option Finding := none

namespace Diagnostic

/-- Whether the diagnostic counts as an error. -/
def isFatal (d : Diagnostic) : Bool :=
  d.severity == .fatal

/-- Whether the position is known. -/
def isResolved (d : Diagnostic) : Bool :=
  1 ≤ d.line

/-- The diagnostic of a finding in the file `path`, without a position. -/
def unresolved (f : Finding) (path : Option String) : Diagnostic :=
  { filePath := match path with
      | some p => if p = "" then unknownFile else p
      | none => unknownFile
    message := f.description.head
    severity := .ofService f.severity
    ruleLink := ContractAudit.ruleLink f.swcId
    vendorSeverity := f.severity
    finding := some f }

/-- The diagnostic with the position and the text of a range. -/
def placed (d : Diagnostic) (span : Span) (text : String) (table : LineTable) : Diagnostic :=
  let (start, stop) := table.range span
  { d with
    line := start.line
    column := start.column
    endLine := stop.line
    endColumn := stop.column
    snippet := some (span.excerpt text) }

/-- The diagnostic of a finding. `text` is the text of the file that the finding points into and
`table` its line table, built here if it is not given. A missing `path` is looked up in the source
list of the location. -/
def ofFinding (f : Finding) (text path : Option String) (table : Option LineTable) :
    Except LocationError Diagnostic :=
  match f.authoritative? with
  | none => .ok (unresolved f path)
  | some location => do
    let entry ← Entry.parse location.sourceMap
    let path := path.orElse fun _ => (fileAt entry.file location.sourceList []).toOption
    match path, text with
    | some _, some t =>
      pure ((unresolved f path).placed entry.span t (table.getD (LineTable.ofText t)))
    | _, _ => pure (unresolved f path)

/-- The fields that make up the identity of a diagnostic. -/
def keyFields (d : Diagnostic) : Json.Members :=
  [("file_path", .str d.filePath), ("message", .str d.message), ("severity", .str d.severity.name),
    ("line", .int d.line), ("column", .int d.column), ("end_line", .int d.endLine),
    ("end_column", .int d.endColumn), ("rule_link", .str d.ruleLink),
    ("vendor_severity", .ofText? d.vendorSeverity), ("snippet", .ofText? d.snippet)]

/-- The key by which repeated diagnostics are told. -/
def identity (d : Diagnostic) : String :=
  Json.write Json.compactLayout (.obj d.keyFields)

/-- The record of a diagnostic. -/
def toJson (d : Diagnostic) : Json :=
  .obj (d.keyFields ++ [("raw_finding", (d.finding.map Finding.toJson).getD .null)])

/-- Reads a severity by its name. -/
def severityField : Json.Field Severity
  | .str s =>
    match Severity.ofName? s with
    | some v => .ok v
    | none => .error .invalidRecord
  | _ => .error .invalidRecord

/-- Reads a diagnostic. -/
def ofJson : Json.Field Diagnostic := fun v => do
  let ms ← Json.Field.object v
  let filePath ← Json.required ms "file_path" .string
  let message ← Json.required ms "message" .string
  let severity ← Json.optional ms "severity" severityField .warning
  let line ← Json.optional ms "line" .integer (-1)
  let column ← Json.optional ms "column" .natural 0
  let endLine ← Json.optional ms "end_line" .integer (-1)
  let endColumn ← Json.optional ms "end_column" .natural 0
  let ruleLink ← Json.optional ms "rule_link" .string noRuleLink
  let vendorSeverity ← Json.optional ms "vendor_severity" (.nullable .string) none
  let snippet ← Json.optional ms "snippet" (.nullable .string) none
  let finding ← Json.optional ms "raw_finding" (.nullable Finding.ofJson) none
  pure { filePath, message, severity, line, column, endLine, endColumn, ruleLink, vendorSeverity,
         snippet, finding }

end Diagnostic

end ContractAudit
