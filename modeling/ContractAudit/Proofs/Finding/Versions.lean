/-
  Issues in the shapes of other versions of the service.

  * `Restates`: one step from an issue, with its report, to the same issue in another shape.  The
    severity moves into an object, the identifier changes its name, the description moves to the
    issue itself, or the locations take over what the report says and the report is left out;
  * `SameBut`: a step changes some members and no other one, and each field of a finding is read
    from few members (`SameBut.description`, `SameBut.locations`);
  * `ofIssue_eq_of_restates`: one step leaves the finding as it is, and `ofIssue_restated`: so does
    any number of steps.
-/
import Mathlib.Logic.Relation
import ContractAudit.Proofs.Finding.Canonical

namespace ContractAudit

namespace Issue

/-! ## Shapes -/

/-- Both have the same members but for those under some keys. -/
def SameBut (keys : List String) (ms ms' : Json.Members) : Prop :=
  ∀ key, key ∉ keys → Keyed.lookup? key ms' = Keyed.lookup? key ms

/-- The member of a location, or of its report if the location lacks it; null without one. -/
def inherited (own report : Json.Members) (key : String) : Json :=
  ((Keyed.lookup? key own).or (Keyed.lookup? key report)).getD .null

/-- The location has taken over what it had left to its report. -/
structure Completes (report own own' : Json.Members) : Prop where
  others : SameBut ["sourceType", "sourceFormat", "sourceList"] own own'
  sourceType : memberOf own' "sourceType" = inherited own report "sourceType"
  sourceFormat : memberOf own' "sourceFormat" = inherited own report "sourceFormat"
  sourceList : memberOf own' "sourceList" = listFor own report

/-- So has an element of a list of locations; what is no object is no location. -/
inductive CompletesElement (report : Json.Members) : Json → Json → Prop
  | location {own own' : Json.Members} (h : Completes report own own') :
      CompletesElement report (.obj own) (.obj own')
  | other {v : Json} (h : v.object? = none) : CompletesElement report v v

/-- So have all locations of an issue. -/
inductive CompletesAll (report : Json.Members) : Json → Json → Prop
  | list {xs xs' : List Json} (h : List.Forall₂ (CompletesElement report) xs xs') :
      CompletesAll report (.arr xs) (.arr xs')
  | other {v : Json} (h : v.objects = []) : CompletesAll report v v

/-- An issue with its report, in its own shape and in another one. -/
inductive Restates : Json.Members × Json → Json.Members × Json → Prop
  /-- A severity that is no object becomes the level or the name in one. -/
  | severity {issue issue' : Json.Members} {report s : Json} {key : String}
      (hs : Keyed.lookup? "severity" issue = some s) (hobject : s.object? = none)
      (hkey : key = "level" ∨ key = "name")
      (hs' : Keyed.lookup? "severity" issue' = some (.obj [(key, s)]))
      (hsame : SameBut ["severity"] issue issue') : Restates (issue, report) (issue', report)
  /-- The identifier changes its name. -/
  | identifier {issue issue' : Json.Members} {report v : Json}
      (hv : Keyed.lookup? "swcID" issue = some v) (hnone : Keyed.lookup? "swcID" issue' = none)
      (hv' : Keyed.lookup? "swcId" issue' = some v)
      (hsame : SameBut ["swcID", "swcId"] issue issue') : Restates (issue, report) (issue', report)
  /-- A description whose head says something moves to the issue itself. -/
  | description {issue issue' ms : Json.Members} {report : Json}
      (hms : Keyed.lookup? "description" issue = some (.obj ms))
      (hnull : memberOf ms "head" ≠ .null)
      (hblank : ¬ Text.IsAllBlank (memberOf ms "head").display)
      (hnone : Keyed.lookup? "description" issue' = none)
      (hhead : memberOf issue' "descriptionHead" = memberOf ms "head")
      (htail : memberOf issue' "descriptionTail" = memberOf ms "tail")
      (hsame : SameBut ["description", "descriptionHead", "descriptionTail"] issue issue') :
      Restates (issue, report) (issue', report)
  /-- The locations take over what the report says, and the report is left out. -/
  | locations {issue issue' report : Json.Members}
      (hall : CompletesAll report (memberOf issue "locations") (memberOf issue' "locations"))
      (hsame : SameBut ["locations"] issue issue') : Restates (issue, .obj report) (issue', .null)

/-! ## Which members count -/

theorem bind_text?_eq (v : Option Json) : v.bind text? = text? (v.getD .null) := by
  cases v <;> rfl

theorem member?_eq (ms : Json.Members) (key : String) : member? ms key = text? (memberOf ms key) :=
  bind_text?_eq _

theorem sharedText_eq (own report : Json.Members) (key : String) :
    sharedText own report key = (text? (inherited own report key)).getD "" := by
  rw [sharedText, bind_text?_eq]
  rfl

namespace SameBut

/-- Members that are equal without those under the keys. -/
theorem of_filter {keys : List String} {ms ms' : Json.Members}
    (h : ms'.filter (·.1 ∉ keys) = ms.filter (·.1 ∉ keys)) : SameBut keys ms ms' := by
  intro key hkey
  have hkept : ∀ m : Json.Members,
      Keyed.lookup? key (m.filter (·.1 ∉ keys)) = Keyed.lookup? key m := by
    intro m
    induction m with
    | nil => rfl
    | cons e m ih =>
      by_cases he : e.1 ∈ keys
      · have hne : ¬ e.1 = key := fun heq => hkey (heq ▸ he)
        rw [List.filter_cons_of_neg (by simpa using he), ih, Keyed.lookup?, if_neg hne]
      · rw [List.filter_cons_of_pos (by simpa using he), Keyed.lookup?, Keyed.lookup?, ih]
  rw [← hkept ms', h, hkept ms]

section
variable {keys : List String} {issue issue' : Json.Members} (h : SameBut keys issue issue')
include h

theorem member? {key : String} (hkey : key ∉ keys) :
    Issue.member? issue' key = Issue.member? issue key := by
  rw [Issue.member?, h key hkey, Issue.member?]

theorem firstMember? {key other : String} (hkey : key ∉ keys) (hother : other ∉ keys) :
    Issue.firstMember? issue' key other = Issue.firstMember? issue key other := by
  rw [Issue.firstMember?, h key hkey, h other hother, Issue.firstMember?]

theorem description
    (hkeys : ∀ key ∈ ["description", "descriptionHead", "descriptionTail", "swcTitle"],
      key ∉ keys) : Issue.description issue' = Issue.description issue := by
  simp only [List.forall_mem_cons] at hkeys
  obtain ⟨hdescription, hhead, htail, htitle, -⟩ := hkeys
  rw [Issue.description, h _ hdescription, h.member? hhead, h.member? htail, h.member? htitle,
    Issue.description]

theorem locations (hkey : "locations" ∉ keys) (report : Json) :
    Issue.locations issue' report = Issue.locations issue report := by
  rw [Issue.locations, h _ hkey, Issue.locations]

theorem extra (hkey : "extra" ∉ keys) : Issue.extra issue' = Issue.extra issue := by
  rw [Issue.extra, h _ hkey, Issue.extra]

end

end SameBut

theorem ofIssue_congr {issue issue' : Json.Members} {report report' : Json}
    (hid : firstMember? issue' "swcID" "swcId" = firstMember? issue "swcID" "swcId")
    (htitle : member? issue' "swcTitle" = member? issue "swcTitle")
    (hseverity : severity? (Keyed.lookup? "severity" issue') =
      severity? (Keyed.lookup? "severity" issue))
    (hdescription : description issue' = description issue)
    (hlocations : locations issue' (report'.orElse (.obj [])) =
      locations issue (report.orElse (.obj [])))
    (hextra : extra issue' = extra issue) :
    Finding.ofIssue issue' report' = Finding.ofIssue issue report := by
  rw [Finding.ofIssue, hid, htitle, hseverity, hdescription, hlocations, hextra, Finding.ofIssue]

/-! ## One step -/

theorem severity?_wrapped {s : Json} (h : s.object? = none) {key : String}
    (hkey : key = "level" ∨ key = "name") :
    severity? (some (.obj [(key, s)])) = severity? (some s) := by
  rw [severity?_of_object?_eq_none h]
  rcases hkey with rfl | rfl <;> rfl

/-- The first name of the identifier counts, but the other one does as well. -/
theorem firstMember?_renamed {ms ms' : Json.Members} {key other : String} {v : Json}
    (hv : Keyed.lookup? key ms = some v) (hnone : Keyed.lookup? key ms' = none)
    (hv' : Keyed.lookup? other ms' = some v) :
    firstMember? ms' key other = firstMember? ms key other := by
  rw [firstMember?, firstMember?, hv, hnone, hv']
  rfl

theorem description_moved {issue issue' ms : Json.Members}
    (hms : Keyed.lookup? "description" issue = some (.obj ms)) (hnull : memberOf ms "head" ≠ .null)
    (hblank : ¬ Text.IsAllBlank (memberOf ms "head").display)
    (hnone : Keyed.lookup? "description" issue' = none)
    (hhead : memberOf issue' "descriptionHead" = memberOf ms "head")
    (htail : memberOf issue' "descriptionTail" = memberOf ms "tail") :
    description issue' = description issue := by
  rw [description, hnone, description, hms]
  simp only [member?_eq, hhead, htail]
  rw [text?_of_ne_null hnull, if_neg (mt Text.trimmed_eq_empty_iff.1 hblank)]
  rfl

/-- A location that has taken over what its report says is read without the report. -/
theorem Completes.location_eq {report own own' : Json.Members} (h : Completes report own own') :
    location own' [] = location own report := by
  have hlist : listFor own' [] = listFor own report := by
    rw [listFor, h.sourceList]
    split
    · next hnull => exact absurd hnull (listFor_ne_null own report)
    · rfl
  have hshared : ∀ key, inherited own' [] key = memberOf own' key := fun key => by
    rw [inherited, memberOf]
    cases Keyed.lookup? key own' <;> rfl
  rw [Issue.location_eq, Issue.location_eq, hlist, h.others.member? (by decide), sharedText_eq,
    sharedText_eq, sharedText_eq, sharedText_eq, hshared, hshared, h.sourceType, h.sourceFormat]

/-- So are all locations of an issue. -/
theorem CompletesAll.locations_eq {issue issue' report : Json.Members}
    (h : CompletesAll report (memberOf issue "locations") (memberOf issue' "locations")) :
    locations issue' (.obj []) = locations issue (.obj report) := by
  rw [locations_obj, locations_obj]
  generalize memberOf issue "locations" = v at h
  generalize memberOf issue' "locations" = v' at h
  cases h with
  | @list xs xs' hxs =>
    have helements : ∀ l : List Json, ((Json.arr l).orElse (.arr [])).elements = .ok l := by
      rintro (_ | ⟨_, _⟩) <;> rfl
    have hobjects : List.Forall₂ (Completes report) (xs.filterMap Json.object?)
        (xs'.filterMap Json.object?) := by
      refine List.rel_filterMap (fun v v' hv => ?_) hxs
      cases hv with
      | location hown => exact .some hown
      | other hnone =>
        rw [hnone]
        exact .none
    rw [helements, helements, ok_bind, ok_bind]
    exact (mapM_eq_of_forall₂ (hobjects.imp fun _ _ hown => hown.location_eq.symm)).symm
  | other hnone =>
    rw [hnone]
    rfl

/-- **Another shape of an issue gives the same finding.** -/
theorem ofIssue_eq_of_restates {p q : Json.Members × Json} (h : Restates p q) :
    Finding.ofIssue q.1 q.2 = Finding.ofIssue p.1 p.2 := by
  cases h with
  | severity hs hobject hkey hs' hsame =>
    have hseverity := severity?_wrapped hobject hkey
    rw [← hs, ← hs'] at hseverity
    exact ofIssue_congr (hsame.firstMember? (by decide) (by decide)) (hsame.member? (by decide))
      hseverity (hsame.description (by decide)) (hsame.locations (by decide) _)
      (hsame.extra (by decide))
  | identifier hv hnone hv' hsame =>
    exact ofIssue_congr (firstMember?_renamed hv hnone hv') (hsame.member? (by decide))
      (congrArg severity? (hsame _ (by decide))) (hsame.description (by decide))
      (hsame.locations (by decide) _) (hsame.extra (by decide))
  | description hms hnull hblank hnone hhead htail hsame =>
    exact ofIssue_congr (hsame.firstMember? (by decide) (by decide)) (hsame.member? (by decide))
      (congrArg severity? (hsame _ (by decide)))
      (description_moved hms hnull hblank hnone hhead htail) (hsame.locations (by decide) _)
      (hsame.extra (by decide))
  | locations hall hsame =>
    refine ofIssue_congr (hsame.firstMember? (by decide) (by decide)) (hsame.member? (by decide))
      (congrArg severity? (hsame _ (by decide))) (hsame.description (by decide)) ?_
      (hsame.extra (by decide))
    rw [Json.obj_orElse]
    exact hall.locations_eq

end Issue

/-- **The versions of the service cannot be told apart by their findings.** However the severity,
the identifier, the description and the locations of an issue are restated, one after the other, it
is read as the same finding, or refused for the same reason. -/
theorem ofIssue_restated {issue issue' : Json.Members} {report report' : Json}
    (h : Relation.ReflTransGen Issue.Restates (issue, report) (issue', report')) :
    Finding.ofIssue issue' report' = Finding.ofIssue issue report := by
  have hpair : ∀ p, Relation.ReflTransGen Issue.Restates (issue, report) p →
      Finding.ofIssue p.1 p.2 = Finding.ofIssue issue report := by
    intro p hp
    induction hp with
    | refl => rfl
    | tail _ hstep ih => exact (Issue.ofIssue_eq_of_restates hstep).trans ih
  exact hpair _ h

open Issue in
/-- An issue that leaves the type and the list of a location to its report, and has a tail of an
older shape besides its description.  All four steps, one after the other, give the same finding
without the report. -/
theorem issue_restated_four_times :
    let description : Json.Members := [("head", .str " Reentrancy"), ("code", .int 7)]
    let location : Json.Members := [("sourceMap", .str "0:1:0"), ("sourceList", .null)]
    let issue : Json.Members :=
      [("swcID", .null), ("swcId", .str "SWC-107"), ("severity", .str "High"),
        ("descriptionTail", .str "old"), ("description", .obj description),
        ("locations", .arr [.str "none", .obj location])]
    let report : Json.Members :=
      [("sourceType", .str "solidity-file"), ("sourceList", .arr [.str "a.sol"])]
    let completed : Json.Members :=
      [("sourceMap", .str "0:1:0"), ("sourceType", .str "solidity-file"),
        ("sourceList", .arr [.str "a.sol"])]
    let restated : Json.Members :=
      [("swcId", .null), ("severity", .obj [("name", .str "High")]),
        ("descriptionHead", .str " Reentrancy"),
        ("locations", .arr [.str "none", .obj completed])]
    Finding.ofIssue issue (.obj report) = .ok
      { severity := some "High"
        description := { head := "Reentrancy" }
        locations := [{ sourceMap := "0:1:0", sourceType := "solidity-file",
                        sourceList := ["a.sol"] }] } ∧
    Relation.ReflTransGen Restates (issue, .obj report) (restated, .null) ∧
    Finding.ofIssue restated .null = Finding.ofIssue issue (.obj report) := by
  intro description location issue report completed restated
  let leveled : Json.Members :=
    [("swcID", .null), ("swcId", .str "SWC-107"), ("severity", .obj [("name", .str "High")]),
      ("descriptionTail", .str "old"), ("description", .obj description),
      ("locations", .arr [.str "none", .obj location])]
  let renamed : Json.Members :=
    [("swcId", .null), ("severity", .obj [("name", .str "High")]),
      ("descriptionTail", .str "old"), ("description", .obj description),
      ("locations", .arr [.str "none", .obj location])]
  let moved : Json.Members :=
    [("swcId", .null), ("severity", .obj [("name", .str "High")]),
      ("descriptionHead", .str " Reentrancy"),
      ("locations", .arr [.str "none", .obj location])]
  have hblank : ¬ Text.IsAllBlank " Reentrancy" := by
    rw [← Text.trimmed_eq_empty_iff]
    decide
  have hcompletes : Completes report location completed := ⟨.of_filter rfl, rfl, rfl, rfl⟩
  have hleveled : Restates (issue, .obj report) (leveled, .obj report) :=
    .severity rfl rfl (.inr rfl) rfl (.of_filter rfl)
  have hrenamed : Restates (leveled, .obj report) (renamed, .obj report) :=
    .identifier rfl rfl rfl (.of_filter rfl)
  have hmoved : Restates (renamed, .obj report) (moved, .obj report) :=
    .description rfl nofun hblank rfl rfl rfl (.of_filter rfl)
  have hrestated : Restates (moved, .obj report) (restated, .null) :=
    .locations (.list (.cons (.other rfl) (.cons (.location hcompletes) .nil))) (.of_filter rfl)
  have hsteps : Relation.ReflTransGen Restates (issue, .obj report) (restated, .null) :=
    (((Relation.ReflTransGen.single hleveled).tail hrenamed).tail hmoved).tail hrestated
  exact ⟨rfl, hsteps, ofIssue_restated hsteps⟩

end ContractAudit
