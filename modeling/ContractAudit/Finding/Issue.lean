/-
  Findings from the issue reports of the service.

  * The field shapes of an issue differ between versions of the service: a severity may be a text
    or an object, a description an object, a text or two members of the issue, a location may leave
    its type, format and source list to the report.  `Finding.ofIssue` maps them all to one shape.
  * `Finding.ofReports` reads a whole answer: a list of reports, a single report, or an object whose
    issues are reports themselves.  What is no report is left out and noted in the log.
-/
import ContractAudit.Finding.Basic
import ContractAudit.Json.Access
import ContractAudit.Json.Literal

namespace ContractAudit

namespace Issue

/-- The trimmed text of a value, unless it is null or nothing remains. -/
def text? : Json → Option String
  | .null => none
  | v =>
    let t := Text.trimmed v.display
    if t = "" then none else some t

/-- The text of a member. -/
def member? (ms : Json.Members) (key : String) : Option String :=
  (Keyed.lookup? key ms).bind text?

/-- The text of a member, or of another member if the first is missing. -/
def firstMember? (ms : Json.Members) (key other : String) : Option String :=
  ((Keyed.lookup? key ms).or (Keyed.lookup? other ms)).bind text?

/-- The severity: a value by itself, or the level or name that an object holds. -/
def severity? : Option Json → Option String
  | some (.obj ms) => firstMember? ms "level" "name"
  | some v => text? v
  | none => none

/-- The description: an object, a text, or members of the issue itself. -/
def description (issue : Json.Members) : Description :=
  match Keyed.lookup? "description" issue with
  | some (.obj ms) =>
    { head := (member? ms "head").getD "", tail := (member? ms "tail").getD "" }
  | some (.str s) => { head := Text.trimmed s }
  | _ =>
    { head := ((member? issue "descriptionHead").or (member? issue "swcTitle")).getD ""
      tail := (member? issue "descriptionTail").getD "" }

/-- The texts of the paths in a source list. -/
def paths (v : Json) : Except Defect (List String) :=
  v.elements.map (·.map Json.display)

/-- A location, with what the report says where the location is silent. -/
def location (own report : Json.Members) : Except Defect Candidate := do
  let listed := (Keyed.lookup? "sourceList" own).getD .null
  let sourceList ← paths (match listed with
    | .null => ((Keyed.lookup? "sourceList" report).getD .null).orElse (.arr [])
    | v => v)
  let shared (key : String) : String :=
    (((Keyed.lookup? key own).or (Keyed.lookup? key report)).bind text?).getD ""
  pure {
    sourceMap := (member? own "sourceMap").getD ""
    sourceType := shared "sourceType"
    sourceFormat := shared "sourceFormat"
    sourceList }

/-- The locations of an issue; what is no object is left out. The report is asked once there is
some location. -/
def locations (issue : Json.Members) (report : Json) : Except Defect (List Candidate) := do
  let listed := ((Keyed.lookup? "locations" issue).getD .null).orElse (.arr [])
  let elements ← listed.elements
  (elements.filterMap fun | .obj ms => some ms | _ => none).mapM fun own => do
    location own (← report.asMembers)

/-- What else the service attached to an issue. -/
def extra (issue : Json.Members) : Json.Members :=
  match Keyed.lookup? "extra" issue with
  | some (.obj ms) => ms
  | _ => []

end Issue

/-- The finding of an issue. `report` is the report that holds it, if it is set. -/
def Finding.ofIssue (issue : Json.Members) (report : Json) : Except Defect Finding := do
  let locations ← Issue.locations issue (report.orElse (.obj []))
  pure {
    swcId := Issue.firstMember? issue "swcID" "swcId"
    swcTitle := Issue.member? issue "swcTitle"
    severity := Issue.severity? (Keyed.lookup? "severity" issue)
    description := Issue.description issue
    locations
    extra := Issue.extra issue }

namespace Issue

/-- The reports in an answer of the service. -/
def reports : Json → Except Defect (List Json)
  | .arr xs => .ok xs
  | .obj ms =>
    match Keyed.lookup? "issues" ms with
    | some (.arr (x :: xs)) =>
      if (x :: xs).all isReport then .ok (x :: xs) else .ok [.obj ms]
    | _ => .ok [.obj ms]
  | v => .error (.unexpectedReport v)
where
  /-- An object with a member `issues`. -/
  isReport : Json → Bool
    | .obj ms => (Keyed.lookup? "issues" ms).isSome
    | _ => false

/-- The findings of one report. -/
def findings (report : Json.Members) : Except Defect (List Finding) := do
  let listed := ((Keyed.lookup? "issues" report).getD .null).orElse (.arr [])
  let elements ← listed.elements
  (elements.filterMap fun | .obj ms => some ms | _ => none).mapM (Finding.ofIssue · (.obj report))

/-- The note about what is no report. -/
def note (v : Json) : String :=
  "Ignoring malformed issue report: " ++ v.literal

/-- The findings of some reports, or the failure of the first that fails, and the log up to
there. -/
def collect : List Json → Except Defect (List Finding) × List String
  | [] => (.ok [], [])
  | .obj ms :: rest =>
    match findings ms with
    | .error e => (.error e, [])
    | .ok fs =>
      let (others, log) := collect rest
      (others.map (fs ++ ·), log)
  | v :: rest =>
    let (others, log) := collect rest
    (others, note v :: log)

end Issue

/-- The findings in an answer of the service, in its order, and the log of what is no report. -/
def Finding.ofReports (payload : Json) : Except Defect (List Finding) × List String :=
  match Issue.reports payload with
  | .ok rs => Issue.collect rs
  | .error e => (.error e, [])

end ContractAudit
