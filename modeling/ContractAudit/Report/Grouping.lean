/-
  Reports of a batch of findings.

  * Each finding is filed under the path that its location names, or under `unknownFile`; files come
    in the order of their first finding and diagnostics in the order of the service.
  * Of diagnostics with equal identity in one file the first is kept.
  * A finding whose location cannot be read is left out and noted in the log; it changes nothing
    else.
-/
import ContractAudit.Report.Basic

namespace ContractAudit

/-- What is known after some findings of a batch. -/
structure Grouping where
  /-- The line tables built so far, by path. -/
  tables : Keyed LineTable := []
  /-- The diagnostics kept so far, by path and by identity. -/
  groups : Keyed (Keyed Diagnostic) := []
  /-- What was noted about findings left out, last one first. -/
  log : List String := []

namespace Grouping

/-- The path under which a finding is filed and the text of that file, if it is known. -/
def target (sources : Json.Members) (sourceList : List String) (f : Finding) :
    Except LocationError (String × Option String) :=
  match f.authoritative? with
  | none => .ok (unknownFile, none)
  | some location => do
    let entry ← Entry.parse location.sourceMap
    let files := if location.sourceList.isEmpty then sourceList else location.sourceList
    match fileAt entry.file files (Keyed.keys sources) with
    | .ok path => pure (path, sourceText? sources path)
    | .error _ => pure (unknownFile, none)

/-- The line table of a file, from the cache or built. -/
def tableFor (g : Grouping) (path text : String) : LineTable :=
  (Keyed.lookup? path g.tables).getD (LineTable.ofText text)

/-- The grouping with a diagnostic filed under a path, unless one of equal identity is there. -/
def file (g : Grouping) (path : String) (d : Diagnostic) : Grouping :=
  let group := (Keyed.lookup? path g.groups).getD []
  let group := if (Keyed.lookup? d.identity group).isSome then group
    else Keyed.insert d.identity d group
  { g with groups := Keyed.insert path group g.groups }

/-- The note about a finding that is left out. -/
def note (f : Finding) (e : LocationError) : String :=
  let name := match f.swcId with
    | some id => if id = "" then f.description.head else id
    | none => f.description.head
  "Skipping finding " ++ Text.quoted name ++ ": " ++ e.message

/-- The grouping after one more finding. -/
def add (sources : Json.Members) (sourceList : List String) (g : Grouping) (f : Finding) :
    Grouping :=
  match target sources sourceList f with
  | .error e => { g with log := note f e :: g.log }
  | .ok (path, text) =>
    let table := text.map (g.tableFor path)
    let g := match table with
      | some t => { g with tables := Keyed.insert path t g.tables }
      | none => g
    match Diagnostic.ofFinding f text (some path) table with
    | .error e => { g with log := note f e :: g.log }
    | .ok d => g.file path d

/-- The reports of the files with a diagnostic. -/
def reports (g : Grouping) : List Report :=
  (g.groups.filter fun p => !p.2.isEmpty).map fun p => .ofDiagnostics p.1 (p.2.map (·.2))

end Grouping

/-- The reports of a batch of findings and the log of those left out. `sourceList` serves locations
without a source list of their own. -/
def Report.ofFindings (findings : List Finding) (sources : Json.Members)
    (sourceList : List String) : List Report × List String :=
  let g := findings.foldl (Grouping.add sources sourceList) {}
  (g.reports, g.log.reverse)

end ContractAudit
