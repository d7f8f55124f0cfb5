/-
  Reports against sources of any kind.

  * Sources and source lists come from outside and may be anything.  `lookupDefect?` tells what goes
    wrong when the file of a finding is looked up there, if anything does.
  * `Report.ofFindingsIn` is the reports of a batch, up to the first finding whose look-up fails.
-/
import ContractAudit.Report.Grouping

namespace ContractAudit

/-- What goes wrong when the file of a finding is looked up. A finding without a location, or with
one that cannot be read, is not looked up. -/
def lookupDefect? (sources files : Json) (f : Finding) : Option Defect := do
  let location ← f.authoritative?
  let entry ← (Entry.parse location.sourceMap).toOption
  let files := if location.sourceList.isEmpty then files else .texts location.sourceList
  match fileIn (.int entry.file) files sources with
  | .error (.error _) => none
  | .error (.defect d) => some d
  | .ok path =>
    match textIn sources path with
    | .error d => some d
    | .ok _ => none

/-- The reports of a batch of findings against sources and a source list of any kind, and the log of
the findings left out. -/
def Report.ofFindingsIn (findings : List Finding) (sources sourceList : Json) :
    Except Defect (List Report) × List String :=
  match (sourceList.orElse (.arr [])).elements with
  | .error d => (.error d, [])
  | .ok files =>
    let (found, rest) := findings.span fun f => (lookupDefect? sources (.arr files) f).isNone
    let (reports, log) := Report.ofFindings found (sources.asMembers.toOption.getD [])
      (files.map Json.display)
    match rest.head?.bind (lookupDefect? sources (.arr files)) with
    | some d => (.error d, log)
    | none => (.ok reports, log)

end ContractAudit
