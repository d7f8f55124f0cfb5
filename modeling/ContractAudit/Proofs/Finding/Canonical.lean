/-
  Findings written as issues of the service.

  * `Finding.IsNormal`: the texts of a finding are stripped, and its identifier, title and severity
    are not empty if they are set;
  * `Finding.toIssue` writes a finding as an issue, with a type, a format and a source list in each
    location;
  * `Issue.text?_ofText?` and `Issue.text?_str`: a text in normal form is read back, so a location
    (`location_toLocation`) and a whole finding are;
  * `ofIssue_toIssue`: the findings that are read from issues are normal, and a normal one is read
    back from its issue, whatever the report around it says.
-/
import ContractAudit.Finding.Issue
import ContractAudit.Finding.Record
import ContractAudit.Proofs.Finding.Reports
import ContractAudit.Proofs.Text.Blank

namespace ContractAudit

open Text

/-! ## Normal form -/

/-- The text is stripped and not empty, if there is one. -/
def IsNormalText (t : Option String) : Prop :=
  ∀ s ∈ t, s ≠ "" ∧ IsStripped s

/-- The texts of the location are stripped. Its source list may hold any texts. -/
structure Candidate.IsNormal (c : Candidate) : Prop where
  sourceMap : IsStripped c.sourceMap
  sourceType : IsStripped c.sourceType
  sourceFormat : IsStripped c.sourceFormat

/-- The texts of the finding are stripped, and those that may be missing are not empty. -/
structure Finding.IsNormal (f : Finding) : Prop where
  swcId : IsNormalText f.swcId
  swcTitle : IsNormalText f.swcTitle
  severity : IsNormalText f.severity
  head : IsStripped f.description.head
  tail : IsStripped f.description.tail
  locations : ∀ c ∈ f.locations, c.IsNormal

/-! ## Writing -/

/-- The location in an issue. -/
def Candidate.toLocation (c : Candidate) : Json.Members :=
  [("sourceMap", .str c.sourceMap), ("sourceType", .str c.sourceType),
    ("sourceFormat", .str c.sourceFormat), ("sourceList", .texts c.sourceList)]

/-- The issue that reports the finding. -/
def Finding.toIssue (f : Finding) : Json.Members :=
  [("swcID", .ofText? f.swcId), ("swcTitle", .ofText? f.swcTitle),
    ("severity", .ofText? f.severity), ("description", f.description.toJson),
    ("locations", .arr (f.locations.map fun c => .obj c.toLocation)), ("extra", .obj f.extra)]

namespace Issue

/-! ## Texts -/

theorem text?_of_ne_null {v : Json} (h : v ≠ .null) :
    text? v = if trimmed v.display = "" then none else some (trimmed v.display) := by
  cases v with
  | null => exact absurd rfl h
  | _ => rfl

theorem text?_str (s : String) :
    text? (.str s) = if trimmed s = "" then none else some (trimmed s) := rfl

theorem isNormalText_text? (v : Json) : IsNormalText (text? v) := by
  intro s hs
  by_cases hnull : v = .null
  · subst hnull
    cases hs
  · rw [text?_of_ne_null hnull] at hs
    split at hs
    · cases hs
    · next hne =>
      cases hs
      exact ⟨hne, isStripped_trimmed _⟩

theorem isNormalText_bind (v : Option Json) : IsNormalText (v.bind text?) := by
  cases v with
  | none => exact nofun
  | some v => exact isNormalText_text? v

theorem isNormalText_or {t u : Option String} (ht : IsNormalText t) (hu : IsNormalText u) :
    IsNormalText (t.or u) := by
  cases t with
  | none => exact hu
  | some s => exact ht

theorem isStripped_getD {t : Option String} (h : IsNormalText t) : IsStripped (t.getD "") := by
  cases t with
  | none => exact ⟨nofun, nofun⟩
  | some s => exact (h s rfl).2

theorem text?_ofText? {t : Option String} (h : IsNormalText t) : text? (.ofText? t) = t := by
  cases t with
  | none => rfl
  | some s =>
    obtain ⟨hne, hs⟩ := h s rfl
    rw [Json.ofText?, text?_str, trimmed_of_isStripped hs, if_neg hne]

theorem getD_text?_str {s : String} (h : IsStripped s) : (text? (.str s)).getD "" = s := by
  rw [text?_str, trimmed_of_isStripped h]
  split
  · next hs => exact hs.symm
  · rfl

/-! ## What is read is in normal form -/

theorem severity?_of_object?_eq_none {v : Json} (h : v.object? = none) :
    severity? (some v) = text? v := by
  cases v with
  | obj ms => cases h
  | _ => rfl

theorem isNormalText_severity? (v : Option Json) : IsNormalText (severity? v) := by
  cases v with
  | none => exact nofun
  | some v =>
    cases hv : v.object? with
    | none =>
      rw [severity?_of_object?_eq_none hv]
      exact isNormalText_text? v
    | some ms =>
      obtain rfl := Json.eq_obj_of_object? hv
      exact isNormalText_bind _

theorem isStripped_description (issue : Json.Members) :
    IsStripped (description issue).head ∧ IsStripped (description issue).tail := by
  rw [description]
  split
  · exact ⟨isStripped_getD (isNormalText_bind _), isStripped_getD (isNormalText_bind _)⟩
  · exact ⟨isStripped_trimmed _, ⟨nofun, nofun⟩⟩
  · exact ⟨isStripped_getD (isNormalText_or (isNormalText_bind _) (isNormalText_bind _)),
      isStripped_getD (isNormalText_bind _)⟩

theorem location_isNormal (own report : Json.Members) :
    Yields (location own report) Candidate.IsNormal := by
  refine .bind fun sourceList _ => .pure ?_
  exact ⟨isStripped_getD (isNormalText_bind _), isStripped_getD (isNormalText_bind _),
    isStripped_getD (isNormalText_bind _)⟩

theorem locations_isNormal (issue : Json.Members) (report : Json) :
    Yields (locations issue report) fun cs => ∀ c ∈ cs, c.IsNormal := by
  refine .bind fun elements _ cs hcs c hc => ?_
  obtain ⟨own, -, hown⟩ := (mem_iff_of_mapM hcs c).1 hc
  obtain ⟨members, -, hlocation⟩ := bind_eq_ok.1 hown
  exact location_isNormal own members c hlocation

/-- **A finding that is read from an issue is in normal form.** -/
theorem ofIssue_isNormal (issue : Json.Members) (report : Json) :
    Yields (Finding.ofIssue issue report) Finding.IsNormal := by
  refine .bind fun cs hcs => .pure ?_
  obtain ⟨hhead, htail⟩ := isStripped_description issue
  exact
    { swcId := isNormalText_bind _
      swcTitle := isNormalText_bind _
      severity := isNormalText_severity? _
      head := hhead
      tail := htail
      locations := locations_isNormal issue _ cs hcs }

/-! ## What is in normal form is read back -/

theorem paths_texts (files : List String) : paths (.texts files) = .ok files := by
  rw [paths, Json.texts, Json.elements, Except.map, List.map_map]
  exact congrArg Except.ok (List.map_id files)

/-- A location is read from its own members, without the report. -/
theorem location_toLocation {c : Candidate} (h : c.IsNormal) (report : Json.Members) :
    location c.toLocation report = .ok c := by
  have hlist : listFor c.toLocation report = .texts c.sourceList := by
    simp [listFor, memberOf, Candidate.toLocation, Keyed.lookup?, Json.texts]
  have hmap : (member? c.toLocation "sourceMap").getD "" = c.sourceMap := by
    simp [member?, Candidate.toLocation, Keyed.lookup?, getD_text?_str h.sourceMap]
  have htype : sharedText c.toLocation report "sourceType" = c.sourceType := by
    simp [sharedText, Candidate.toLocation, Keyed.lookup?, getD_text?_str h.sourceType]
  have hformat : sharedText c.toLocation report "sourceFormat" = c.sourceFormat := by
    simp [sharedText, Candidate.toLocation, Keyed.lookup?, getD_text?_str h.sourceFormat]
  rw [location_eq, hlist, paths_texts, ok_bind, hmap, htype, hformat]
  rfl

theorem locations_toIssue {f : Finding} (h : f.IsNormal) (report : Json.Members) :
    locations f.toIssue (.obj report) = .ok f.locations := by
  have hmember : memberOf f.toIssue "locations" =
      .arr (f.locations.map fun c => .obj c.toLocation) := rfl
  have hobjects : (Json.arr (f.locations.map fun c => .obj c.toLocation)).objects =
      f.locations.map Candidate.toLocation := by
    rw [Json.objects, List.filterMap_map]
    exact congrFun List.filterMap_eq_map f.locations
  have helements : ((Json.arr (f.locations.map fun c => .obj c.toLocation)).orElse
      (.arr [])).elements = .ok (f.locations.map fun c => .obj c.toLocation) := by
    cases f.locations <;> rfl
  rw [locations_obj, hmember, helements, ok_bind, hobjects, mapM_eq_ok_iff,
    List.forall₂_map_left_iff, List.forall₂_same]
  exact fun c hc => location_toLocation (h.locations c hc) report

theorem description_toIssue {f : Finding} (h : f.IsNormal) :
    description f.toIssue = f.description := by
  simp [description, Finding.toIssue, Description.toJson, member?, Keyed.lookup?,
    getD_text?_str h.head, getD_text?_str h.tail]

theorem severity?_toIssue {f : Finding} (h : f.IsNormal) :
    severity? (Keyed.lookup? "severity" f.toIssue) = f.severity := by
  have hlookup : Keyed.lookup? "severity" f.toIssue = some (.ofText? f.severity) := by
    simp [Finding.toIssue, Keyed.lookup?]
  have hobject : (Json.ofText? f.severity).object? = none := by
    cases f.severity <;> rfl
  rw [hlookup, severity?_of_object?_eq_none hobject, text?_ofText? h.severity]

/-- **A finding in normal form is read back from its issue.** -/
theorem ofIssue_toIssue_of_isNormal {f : Finding} (h : f.IsNormal) (report : Json.Members) :
    Finding.ofIssue f.toIssue (.obj report) = .ok f := by
  have hid : firstMember? f.toIssue "swcID" "swcId" = f.swcId := by
    simp [firstMember?, Finding.toIssue, Keyed.lookup?, text?_ofText? h.swcId]
  have htitle : member? f.toIssue "swcTitle" = f.swcTitle := by
    simp [member?, Finding.toIssue, Keyed.lookup?, text?_ofText? h.swcTitle]
  have hextra : extra f.toIssue = f.extra := by
    simp [extra, Finding.toIssue, Keyed.lookup?]
  rw [Finding.ofIssue, Json.obj_orElse, locations_toIssue h, ok_bind, hid, htitle,
    severity?_toIssue h, description_toIssue h, hextra]
  rfl

end Issue

/-- **Reading an issue undoes writing it.** What is read from an issue is in normal form; a finding
in normal form is read back from its issue, whatever the report around it says; so what is read,
written and read again is what was read. -/
theorem ofIssue_toIssue :
    (∀ (issue : Json.Members) (report : Json) (f : Finding),
      Finding.ofIssue issue report = .ok f → f.IsNormal) ∧
    (∀ f : Finding, f.IsNormal → ∀ report : Json.Members,
      Finding.ofIssue f.toIssue (.obj report) = .ok f) ∧
    ∀ (issue : Json.Members) (report : Json) (f : Finding),
      Finding.ofIssue issue report = .ok f → ∀ other : Json.Members,
        Finding.ofIssue f.toIssue (.obj other) = .ok f := by
  refine ⟨Issue.ofIssue_isNormal, fun f => Issue.ofIssue_toIssue_of_isNormal, ?_⟩
  intro issue report f hf other
  exact Issue.ofIssue_toIssue_of_isNormal (Issue.ofIssue_isNormal issue report f hf) other

/-- An issue with blanks around its texts, without a title, and with a location that leaves
everything but its source list to the report; the list is empty. The finding is written and read
again, with a report that says something else. -/
theorem silent_location_reads_back :
    let issue : Json.Members :=
      [("swcID", .str "\u2003SWC-101 "), ("severity", .obj [("name", .str "\tHigh")]),
        ("description", .str " \u001c"),
        ("locations", .arr [.obj [("sourceMap", .str "0:1:0\n"), ("sourceList", .arr [])]])]
    let report : Json.Members := [("sourceType", .str " solidity-file")]
    let other : Json.Members :=
      [("sourceFormat", .str "text"), ("sourceList", .arr [.str "a.sol"])]
    let found : Finding :=
      { swcId := some "SWC-101", severity := some "High"
        locations := [{ sourceMap := "0:1:0", sourceType := "solidity-file" }] }
    Finding.ofIssue issue (.obj report) = .ok found ∧ found.IsNormal ∧
      Finding.ofIssue found.toIssue (.obj other) = .ok found := by
  intro issue report other found
  obtain ⟨hnormal, hback, -⟩ := ofIssue_toIssue
  have hfound : Finding.ofIssue issue (.obj report) = .ok found := by
    rfl
  have hf := hnormal issue (.obj report) found hfound
  exact ⟨hfound, hf, hback found hf other⟩

end ContractAudit
