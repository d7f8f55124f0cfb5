/-
  Answers of the service of any shape.

  Every part of an answer may be any value.  What holds nothing counts as empty, there are no
  objects to be found in texts and objects, and nothing runs through numbers and truth values.

  * `listFor` is the source list that counts for a location, and `IsRefused` and `IsRefusedReport`
    say which issues and reports have a number or a truth value for a list;
  * `refuses_location`, `refuses_ofIssue`, `refuses_findings` and `refuses_collect`: level by level,
    these are refused and all others are read;
  * `collect_eq_ok`: the findings are those of the issues, one by one, in order;
  * `ConsistsOf` tells the reports in an answer by its shape, and `reports_of_consistsOf` that these
    are read;
  * `ofReports_shapes`: which answers are refused, what the others give, and which of them agree.
-/
import ContractAudit.Finding.Issue
import ContractAudit.Proofs.Answers

namespace ContractAudit

/-! ## Values that are run through -/

namespace Json

/-- Whether the value is a number or a truth value. -/
def isScalar : Json → Bool
  | bool _ | int _ | float _ => true
  | _ => false

/-- The members of the value, if it is an object. -/
def object? : Json → Option Members
  | obj ms => some ms
  | _ => none

/-- The objects in the value, if it is a list. -/
def objects : Json → List Members
  | arr xs => xs.filterMap object?
  | _ => []

theorem refuses_elements {v : Json} (h : v ≠ null) : Refuses v.elements (v.isScalar = true) := by
  cases v with
  | null => exact absurd rfl h
  | bool | int | float => exact ⟨fun _ => rfl, fun hn => absurd rfl hn⟩
  | str | arr | obj => exact (Refuses.pure _).of_iff (by simp [isScalar])

theorem filterMap_object?_elements {v : Json} {elements : List Json}
    (h : v.elements = .ok elements) : elements.filterMap object? = v.objects := by
  have htexts {α : Type} (f : α → String) (l : List α) :
      (l.map fun a => str (f a)).filterMap object? = [] := by
    rw [List.filterMap_map, List.filterMap_eq_nil_iff]
    exact fun _ _ => rfl
  cases v with
  | arr xs => cases h; rfl
  | str s => cases h; exact htexts _ _
  | obj ms => cases h; exact htexts _ _
  | null | bool | int | float => cases h

section
variable (v : Json)

/-- A value that holds nothing counts as an empty list. -/
theorem refuses_elements_orElse :
    Refuses (v.orElse (arr [])).elements (v.isSet = true ∧ v.isScalar = true) := by
  rw [orElse]
  split
  · next h =>
    refine (refuses_elements ?_).of_iff (by simp [h])
    rintro rfl
    cases h
  · next h => exact (Refuses.pure _).of_iff (by simp [h])

theorem objects_orElse : (v.orElse (arr [])).objects = v.objects := by
  rw [orElse]
  split
  · rfl
  · next h =>
    cases v with
    | arr xs => cases xs with
      | nil => rfl
      | cons x xs => exact absurd rfl h
    | _ => rfl

end

theorem obj_orElse (ms : Members) : (obj ms).orElse (obj []) = obj ms := by
  cases ms <;> rfl

theorem eq_obj_of_object? {v : Json} {ms : Members} (h : v.object? = some ms) : v = obj ms := by
  cases v with
  | obj => cases h; rfl
  | _ => cases h

end Json

namespace Issue

/-! ## Lists in reports -/

/-- The value of a member, null without one. -/
def memberOf (ms : Json.Members) (key : String) : Json :=
  (Keyed.lookup? key ms).getD .null

/-- The member is a number other than zero, or true: it holds something, but nothing runs through
it. -/
def HoldsScalar (ms : Json.Members) (key : String) : Prop :=
  (memberOf ms key).isSet = true ∧ (memberOf ms key).isScalar = true

/-- The source list that counts for a location: its own one unless that is missing or null, and else
that of the report, where one that holds nothing counts as empty. -/
def listFor (own report : Json.Members) : Json :=
  match memberOf own "sourceList" with
  | .null => (memberOf report "sourceList").orElse (.arr [])
  | v => v

/-- The text of a member that a location may leave to its report. -/
def sharedText (own report : Json.Members) (key : String) : String :=
  (((Keyed.lookup? key own).or (Keyed.lookup? key report)).bind text?).getD ""

/-- The locations of the issue, or the source list that counts for one of them, are a number or a
truth value. -/
def IsRefused (issue report : Json.Members) : Prop :=
  HoldsScalar issue "locations" ∨
    ∃ own ∈ (memberOf issue "locations").objects, (listFor own report).isScalar = true

/-- The issues of the report are a number or a truth value, or one of them is refused. -/
def IsRefusedReport (report : Json.Members) : Prop :=
  HoldsScalar report "issues" ∨
    ∃ issue ∈ (memberOf report "issues").objects, IsRefused issue report

theorem listFor_ne_null (own report : Json.Members) : listFor own report ≠ .null := by
  rw [listFor]
  split
  · rw [Json.orElse]
    split
    · next h =>
      intro hnull
      rw [hnull] at h
      cases h
    · exact nofun
  · next h => exact h

theorem filterMap_object?_member {ms : Json.Members} {key : String} {elements : List Json}
    (h : ((memberOf ms key).orElse (.arr [])).elements = .ok elements) :
    elements.filterMap Json.object? = (memberOf ms key).objects := by
  rw [Json.filterMap_object?_elements h, Json.objects_orElse]

/-! ## One report -/

section
variable (issue report : Json.Members)

/-- A location is read with the source list that counts for it. -/
theorem location_eq (own : Json.Members) : location own report =
    paths (listFor own report) >>= fun sourceList => pure
      { sourceMap := (member? own "sourceMap").getD ""
        sourceType := sharedText own report "sourceType"
        sourceFormat := sharedText own report "sourceFormat"
        sourceList } := rfl

theorem refuses_location (own : Json.Members) :
    Refuses (location own report) ((listFor own report).isScalar = true) := by
  have hpaths := (Json.refuses_elements (listFor_ne_null own report)).map (·.map Json.display)
  rw [location_eq]
  exact (hpaths.bind fun _ _ => .pure _).of_iff (by simp)

theorem locations_obj : locations issue (.obj report) =
    ((memberOf issue "locations").orElse (.arr [])).elements >>= fun _ =>
      (memberOf issue "locations").objects.mapM (location · report) := by
  show ((memberOf issue "locations").orElse (.arr [])).elements >>= (fun elements =>
    (elements.filterMap Json.object?).mapM (location · report)) = _
  cases helements : ((memberOf issue "locations").orElse (.arr [])).elements with
  | error d => rfl
  | ok elements => rw [ok_bind, ok_bind, filterMap_object?_member helements]

theorem refuses_locations :
    Refuses (locations issue (.obj report)) (IsRefused issue report) := by
  rw [locations_obj]
  exact (Json.refuses_elements_orElse _).bind fun _ _ => .mapM fun own _ =>
    refuses_location report own

/-- **An issue is refused as a whole or read.** -/
theorem refuses_ofIssue :
    Refuses (Finding.ofIssue issue (.obj report)) (IsRefused issue report) := by
  rw [Finding.ofIssue, Json.obj_orElse]
  exact ((refuses_locations issue report).bind fun _ _ => .pure _).of_iff (by simp)

theorem refuses_findings : Refuses (findings report) (IsRefusedReport report) := by
  refine (Json.refuses_elements_orElse _).bind fun elements helements => ?_
  rw [← filterMap_object?_member helements]
  exact .mapM fun issue _ => refuses_ofIssue issue report

end

theorem forall₂_findings {report : Json.Members} {fs : List Finding}
    (h : findings report = .ok fs) :
    List.Forall₂ (fun issue f => Finding.ofIssue issue (.obj report) = .ok f)
      (memberOf report "issues").objects fs := by
  obtain ⟨elements, helements, hfs⟩ := bind_eq_ok.1 h
  rw [← filterMap_object?_member helements]
  exact mapM_eq_ok_iff.1 hfs

/-! ## Several reports -/

/-- The issues of the reports that are objects, each with its report. -/
def issuesIn (reports : List Json) : List (Json.Members × Json.Members) :=
  (reports.filterMap Json.object?).flatMap fun report =>
    (memberOf report "issues").objects.map (report, ·)

/-- The notes about the reports that are no objects. -/
def notes (reports : List Json) : List String :=
  (reports.filter fun report => !report.isObject).map note

/-- What two lists of reports give one after the other. After a failure nothing more is read. -/
def joined : Except Defect (List Finding) × List String →
    Except Defect (List Finding) × List String → Except Defect (List Finding) × List String
  | (.ok fs, log), (others, log') => (others.map (fs ++ ·), log ++ log')
  | (.error e, log), _ => (.error e, log)

theorem collect_cons_of_object?_eq_none {v : Json} (h : v.object? = none) (rest : List Json) :
    collect (v :: rest) = ((collect rest).1, note v :: (collect rest).2) := by
  cases v with
  | obj ms => cases h
  | _ => rfl

theorem fst_collect_cons_obj (report : Json.Members) (rest : List Json) :
    (collect (.obj report :: rest)).1 =
      findings report >>= fun fs => (collect rest).1.map (fs ++ ·) := by
  rw [collect]
  cases findings report <;> rfl

/-- The findings and notes of a report come before those of the reports after it. -/
theorem collect_append (reports others : List Json) :
    collect (reports ++ others) = joined (collect reports) (collect others) := by
  induction reports with
  | nil =>
    rcases hothers : collect others with ⟨_ | _, _⟩ <;> simp [collect, joined, hothers, Except.map]
  | cons v reports ih =>
    cases v with
    | obj report =>
      rw [List.cons_append, collect, collect]
      cases findings report with
      | error e => rfl
      | ok fs =>
        dsimp only
        rw [ih]
        rcases collect reports with ⟨_ | gs, log⟩
        · rfl
        · rcases collect others with ⟨_ | _, _⟩ <;> simp [joined, Except.map]
    | _ =>
      rw [List.cons_append, collect_cons_of_object?_eq_none rfl,
        collect_cons_of_object?_eq_none rfl, ih]
      rcases collect reports with ⟨_ | gs, log⟩ <;> rfl

theorem refuses_collect (reports : List Json) :
    Refuses (collect reports).1 (∃ report, .obj report ∈ reports ∧ IsRefusedReport report) := by
  induction reports with
  | nil => exact (Refuses.pure _).of_iff (by simp)
  | cons v reports ih =>
    cases v with
    | obj report =>
      rw [fst_collect_cons_obj]
      refine ((refuses_findings report).bind fun fs _ => ih.map _).of_iff ?_
      simp [or_and_right, exists_or]
    | _ =>
      rw [collect_cons_of_object?_eq_none rfl]
      exact ih.of_iff (by simp)

/-- **Reports that are read give one finding for each issue, in their order**, and one note for each
report that is no object. -/
theorem collect_eq_ok {reports : List Json} {fs : List Finding}
    (h : (collect reports).1 = .ok fs) :
    (collect reports).2 = notes reports ∧
      List.Forall₂ (fun p f => Finding.ofIssue p.2 (.obj p.1) = .ok f) (issuesIn reports) fs := by
  induction reports generalizing fs with
  | nil =>
    cases h
    exact ⟨rfl, .nil⟩
  | cons v reports ih =>
    cases v with
    | obj report =>
      rw [fst_collect_cons_obj] at h
      obtain ⟨own, hfindings, h⟩ := bind_eq_ok.1 h
      cases hothers : (collect reports).1 with
      | error e => rw [hothers] at h; cases h
      | ok others =>
        rw [hothers] at h
        cases h
        obtain ⟨hlog, hissues⟩ := ih hothers
        have hown : List.Forall₂ (fun p f => Finding.ofIssue p.2 (.obj p.1) = .ok f)
            ((memberOf report "issues").objects.map (report, ·)) own :=
          List.forall₂_map_left_iff.2 (forall₂_findings hfindings)
        refine ⟨?_, List.rel_append hown hissues⟩
        rw [collect, hfindings]
        exact hlog
    | _ =>
      rw [collect_cons_of_object?_eq_none rfl] at h ⊢
      obtain ⟨hlog, hissues⟩ := ih h
      exact ⟨congrArg _ hlog, hissues⟩

/-! ## Shapes of an answer -/

/-- The members wrap the reports: these are the issues, and each of them has issues itself. -/
def Wraps (ms : Json.Members) (reports : List Json) : Prop :=
  Keyed.lookup? "issues" ms = some (.arr reports) ∧ reports ≠ [] ∧
    ∀ report ∈ reports, ∃ own, report = .obj own ∧ "issues" ∈ Keyed.keys own

/-- `ConsistsOf payload reports`: the answer is these reports, wraps them, or is the only one. -/
inductive ConsistsOf : Json → List Json → Prop
  | list (reports : List Json) : ConsistsOf (.arr reports) reports
  | wrapped {ms : Json.Members} {reports : List Json} (h : Wraps ms reports) :
      ConsistsOf (.obj ms) reports
  | single {ms : Json.Members} (h : ∀ reports, ¬ Wraps ms reports) :
      ConsistsOf (.obj ms) [.obj ms]

/-- Members with a list of issues wrap them iff they look like reports. -/
theorem wraps_iff {ms : Json.Members} {issues : List Json}
    (h : Keyed.lookup? "issues" ms = some (.arr issues)) :
    Wraps ms issues ↔ issues ≠ [] ∧ issues.all reports.isReport = true := by
  have hreport (v : Json) :
      reports.isReport v = true ↔ ∃ own, v = .obj own ∧ "issues" ∈ Keyed.keys own := by
    cases v <;> simp [reports.isReport, Keyed.isSome_lookup?]
  simp only [Wraps, h, true_and, List.all_eq_true, hreport]

/-- **The reports that an answer consists of are those that are read.** -/
theorem reports_of_consistsOf {payload : Json} {rs : List Json} (h : ConsistsOf payload rs) :
    reports payload = .ok rs := by
  cases h with
  | list => rfl
  | @wrapped ms rs h =>
    obtain ⟨hne, hall⟩ := (wraps_iff h.1).1 h
    cases rs with
    | nil => exact absurd rfl hne
    | cons r rs => simp only [reports, h.1, hall, if_true]
  | @single ms h =>
    rw [reports]
    split
    · next r rs hlookup =>
      rw [if_neg]
      intro hall
      exact h _ ((wraps_iff hlookup).2 ⟨by simp, hall⟩)
    · rfl

/-- Lists and objects consist of reports, and nothing else does. -/
theorem exists_consistsOf_iff {payload : Json} :
    (∃ rs, ConsistsOf payload rs) ↔ (∃ rs, payload = .arr rs) ∨ ∃ ms, payload = .obj ms := by
  constructor
  · rintro ⟨rs, _ | h | h⟩
    · exact .inl ⟨_, rfl⟩
    · exact .inr ⟨_, rfl⟩
    · exact .inr ⟨_, rfl⟩
  · rintro (⟨rs, rfl⟩ | ⟨ms, rfl⟩)
    · exact ⟨rs, .list rs⟩
    · by_cases h : ∃ rs, Wraps ms rs
      · obtain ⟨rs, h⟩ := h
        exact ⟨rs, .wrapped h⟩
      · exact ⟨_, .single (not_exists.1 h)⟩

theorem ofReports_of_consistsOf {payload : Json} {rs : List Json} (h : ConsistsOf payload rs) :
    Finding.ofReports payload = collect rs := by
  rw [Finding.ofReports, reports_of_consistsOf h]

section
variable {payload : Json}

theorem ofReports_unexpected_iff :
    (Finding.ofReports payload).1 = .error (.unexpectedReport payload) ↔
      ¬ ∃ rs, ConsistsOf payload rs := by
  constructor
  · rintro h ⟨rs, hrs⟩
    rw [ofReports_of_consistsOf hrs] at h
    cases ((refuses_collect rs).eq_of_error h).1
  · intro h
    rw [exists_consistsOf_iff] at h
    cases payload with
    | arr rs => exact absurd (.inl ⟨rs, rfl⟩) h
    | obj ms => exact absurd (.inr ⟨ms, rfl⟩) h
    | _ => rfl

/-- Reports are refused iff one of them is. -/
theorem ofReports_wrongKind_iff :
    (Finding.ofReports payload).1 = .error .wrongKind ↔
      ∃ rs, ConsistsOf payload rs ∧ ∃ report, .obj report ∈ rs ∧ IsRefusedReport report := by
  constructor
  · intro h
    by_cases hreports : ∃ rs, ConsistsOf payload rs
    · obtain ⟨rs, hrs⟩ := hreports
      rw [ofReports_of_consistsOf hrs] at h
      exact ⟨rs, hrs, ((refuses_collect rs).eq_of_error h).2⟩
    · cases h.symm.trans (ofReports_unexpected_iff.2 hreports)
  · rintro ⟨rs, hrs, hrefused⟩
    rw [ofReports_of_consistsOf hrs]
    exact (refuses_collect rs).1 hrefused

theorem exists_ofReports {rs : List Json} (h : ConsistsOf payload rs)
    (haccepted : ∀ report, .obj report ∈ rs → ¬ IsRefusedReport report) : ∃ findings,
      Finding.ofReports payload = (.ok findings, notes rs) ∧
      List.Forall₂ (fun p f => Finding.ofIssue p.2 (.obj p.1) = .ok f) (issuesIn rs) findings := by
  obtain ⟨findings, hfindings⟩ := (refuses_collect rs).2
    fun ⟨report, hmem, hrefused⟩ => haccepted report hmem hrefused
  obtain ⟨hlog, hissues⟩ := collect_eq_ok hfindings
  exact ⟨findings, by rw [ofReports_of_consistsOf h, ← hlog, ← hfindings], hissues⟩

end

end Issue

open Issue in
/-- **The shapes of an answer agree, and nothing is lost or reordered.** An answer is refused if it
is neither a list nor an object, or if a report in it is; otherwise each issue gives one finding, in
order, and each report that is no object one note. Wrapped reports are read like a list of them,
every other object like a list of itself, and lists in a row one after the other. -/
theorem ofReports_shapes (payload : Json) :
    ((Finding.ofReports payload).1 = .error (.unexpectedReport payload) ↔
      ¬ ((∃ reports, payload = .arr reports) ∨ ∃ ms, payload = .obj ms)) ∧
    ((Finding.ofReports payload).1 = .error .wrongKind ↔
      ∃ reports, ConsistsOf payload reports ∧
        ∃ report, .obj report ∈ reports ∧ IsRefusedReport report) ∧
    (∀ reports, ConsistsOf payload reports →
      (∀ report, .obj report ∈ reports → ¬ IsRefusedReport report) → ∃ findings,
        Finding.ofReports payload = (.ok findings, notes reports) ∧
        List.Forall₂ (fun p f => Finding.ofIssue p.2 (.obj p.1) = .ok f) (issuesIn reports)
          findings) ∧
    (∀ ms reports, Wraps ms reports →
      Finding.ofReports (.obj ms) = Finding.ofReports (.arr reports)) ∧
    (∀ ms, (∀ reports, ¬ Wraps ms reports) →
      Finding.ofReports (.obj ms) = Finding.ofReports (.arr [.obj ms])) ∧
    ∀ reports others, Finding.ofReports (.arr (reports ++ others)) =
      joined (Finding.ofReports (.arr reports)) (Finding.ofReports (.arr others)) := by
  refine ⟨?_, ofReports_wrongKind_iff, fun reports => exists_ofReports, ?_, ?_, ?_⟩
  · rw [← exists_consistsOf_iff]
    exact ofReports_unexpected_iff
  · intro ms reports h
    rw [ofReports_of_consistsOf (.wrapped h), ofReports_of_consistsOf (.list reports)]
  · intro ms h
    rw [ofReports_of_consistsOf (.single h), ofReports_of_consistsOf (.list _)]
  · intro reports others
    simp only [ofReports_of_consistsOf (.list _), collect_append]

/-- Two wrapped reports, one of them with a text among its issues, give the findings of their two
issues; one more report whose issues are true is refused with them. -/
theorem wrapped_reports_agree :
    let issue (head : String) : Json := .obj [("descriptionHead", .str head)]
    let reports : List Json :=
      [.obj [("issues", .arr [issue "first", .str "no issue"])],
        .obj [("issues", .arr [issue "second"])]]
    let refused : Json := .obj [("issues", .bool true)]
    let heads (payload : Json) : Option (List String) :=
      (Finding.ofReports payload).1.toOption.map (·.map fun f => f.description.head)
    heads (.obj [("uuid", .int 7), ("issues", .arr reports)]) = some ["first", "second"] ∧
    heads (.arr reports) = some ["first", "second"] ∧
    (Finding.ofReports (.arr (reports ++ [refused]))).1 = .error .wrongKind := by
  intro issue reports refused heads
  have hwraps : Issue.Wraps [("uuid", .int 7), ("issues", .arr reports)] reports :=
    ⟨rfl, by simp [reports], List.forall_mem_cons.2
      ⟨⟨_, rfl, by simp [Keyed.keys]⟩, List.forall_mem_singleton.2 ⟨_, rfl, by simp [Keyed.keys]⟩⟩⟩
  have hheads : heads (.arr reports) = some ["first", "second"] := by decide +kernel
  have hrefused : Issue.IsRefusedReport [("issues", .bool true)] := .inl ⟨rfl, rfl⟩
  obtain ⟨-, hwrong, -, hagree, -, -⟩ := ofReports_shapes (.arr (reports ++ [refused]))
  refine ⟨?_, hheads, hwrong.2 ⟨_, .list _, _, by simp [refused], hrefused⟩⟩
  show Option.map _ (Finding.ofReports _).1.toOption = _
  rw [hagree _ _ hwraps]
  exact hheads

end ContractAudit
