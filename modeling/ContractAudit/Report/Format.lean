/-
  The output formats of reports.

  * The set of formats is closed: `Format.ofName` knows their names, and `Format.render` writes
    reports in one of them.
  * The library that writes reports in JSON follows the values attached to a finding `writtenLevels`
    levels down.
  * Counts, lines and columns are numbers of things in memory, and so they have numerals; only the
    places that a source map gives may be too long for one.
-/
import ContractAudit.Report.Compact
import ContractAudit.Report.Html
import ContractAudit.Report.Tabular

namespace ContractAudit

/-- An output format. -/
inductive Format where
  | text
  | stylish
  | compact
  | table
  | html
  | json
deriving DecidableEq, Repr

/-- A name that is no format. -/
structure UnknownFormat where
  name : String

namespace Format

/-- All formats, in the order in which they are listed. -/
def all : List Format := [text, stylish, compact, table, html, json]

/-- The name of a format. -/
def name : Format → String
  | text => "text"
  | stylish => "stylish"
  | compact => "compact"
  | table => "table"
  | html => "html"
  | json => "json"

/-- The names of the formats. -/
def names : List String := all.map name

/-- The format of a name. -/
def ofName (s : String) : Except UnknownFormat Format :=
  match all.find? (·.name == s) with
  | some f => .ok f
  | none => .error ⟨s⟩

/-- The format that a value names: only a text can name one. -/
def ofJson : Json → Except UnknownFormat Format
  | .str s => ofName s
  | v => .error ⟨v.display⟩

/-- How many levels of an attached value are written. -/
def writtenLevels : Nat := 255

/-- Whether everything that is attached to the finding can be written in JSON. -/
def hasLevels (f : Finding) : Bool :=
  f.extra.all fun (_, v) => v.height ≤ writtenLevels

/-- A diagnostic is written in JSON only if its finding can be. -/
def checkLevels (d : Diagnostic) : Except Defect Unit :=
  if d.finding.all hasLevels then .ok () else .error .endless

/-- Reports in a format. Paths are shown relative to the working directory where they lie below
it, in the formats for the terminal. -/
def render (f : Format) (cwd : String) (rs : List Report) : Except Defect String :=
  match f with
  | text => Report.narrative rs
  | stylish => .ok (Report.listing cwd rs)
  | compact => .ok (Report.compact rs)
  | table => Report.tabular cwd rs
  | html => do
    rs.forM fun r => r.messages.forM Report.checkPlace
    pure (Report.html rs)
  | json => do
    rs.forM fun r => r.messages.forM checkLevels
    pure (Json.write Json.reportLayout (.arr (rs.map Report.toJson)))

end Format

/-- The message of the error. -/
def UnknownFormat.message (e : UnknownFormat) : String :=
  "Invalid output format " ++ Text.quoted e.name ++ ". Available formats: " ++
    Text.joined ", " Format.names ++ "."

end ContractAudit
