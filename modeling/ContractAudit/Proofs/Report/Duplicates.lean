/-
  Findings that repeat an earlier one of their file.

  * `Finding.mark` is what tells a finding from the others of its file: the bytes it points to, the
    head of its description, its severity and its rule;
  * `Finding.firstsAt` are the findings of a batch that are filed under a path and whose mark no
    earlier one of that path has;
  * `filed_eq` and `diagnosticIn_identity_eq_iff`: in a file with a known text, the diagnostics
    of two findings have one identity iff the findings have one mark;
  * `ofFindingsIn_merges`: hence the report of the file holds exactly these findings.

  Findings without a known file are filed under `unknownFile`. They have no place, whatever their
  locations say (`stray_findings_merge`).
-/
import Mathlib.Data.List.Nodup
import ContractAudit.Proofs.Diagnostic.Identity
import ContractAudit.Proofs.Report.Batch

namespace ContractAudit

/-! ## Marks -/

/-- What tells a finding from the others of its file. -/
structure Finding.Mark where
  /-- The bytes that it points to, if its file is known. -/
  place : Option Span
  head : String
  severity : Option String
  /-- The identifier of its rule; an empty one stands for none. -/
  rule : String
deriving DecidableEq

namespace Finding

section
variable (sources : Json.Members) (sourceList : List String)

/-- The bytes that the finding points to, if its location names a file. -/
def place? (f : Finding) : Option Span :=
  (f.listed? sources sourceList).bind fun _ => f.entry?.map Entry.span

/-- The mark of a finding. -/
def mark (f : Finding) : Mark :=
  { place := f.place? sources sourceList
    head := f.description.head
    severity := f.severity
    rule := f.swcId.getD "" }

/-- Whether the finding is filed under the path. -/
def isFiledAt (path : String) (f : Finding) : Bool :=
  f.isReadable && f.path sources sourceList = path

/-- The findings that are filed under a path and whose mark no earlier one of them has. -/
def firstsAt (path : String) (findings : List Finding) : List Finding :=
  (findings.zipIdx.filter fun (f, i) => f.isFiledAt sources sourceList path &&
    !(findings.take i).any fun e => e.isFiledAt sources sourceList path &&
      e.mark sources sourceList == f.mark sources sourceList).map (·.1)

/-- The diagnostic of a finding in a file with the given text. -/
def diagnosticIn (path text : String) (f : Finding) : Diagnostic :=
  match f.place? sources sourceList with
  | some span => (Diagnostic.unresolved f (some path)).placed span text (LineTable.ofText text)
  | none => Diagnostic.unresolved f (some path)

end

section
variable {sources : Json.Members} {sourceList : List String} {path text : String}

@[simp] theorem diagnosticIn_finding (f : Finding) :
    (f.diagnosticIn sources sourceList path text).finding = some f := by
  rw [diagnosticIn]; split <;> rfl

/-- **The diagnostics of a file are told apart by the marks of their findings.** -/
theorem diagnosticIn_identity_eq_iff (f g : Finding) :
    (f.diagnosticIn sources sourceList path text).identity =
        (g.diagnosticIn sources sourceList path text).identity ↔
      f.mark sources sourceList = g.mark sources sourceList := by
  rw [diagnosticIn, diagnosticIn, mark, mark, Mark.mk.injEq]
  cases f.place? sources sourceList with
  | none =>
    cases g.place? sources sourceList with
    | none => simp [Diagnostic.unresolved_identity_eq_iff]
    | some t => simp [Diagnostic.unresolved_identity_ne_placed]
  | some s =>
    cases g.place? sources sourceList with
    | none => simp [Diagnostic.unresolved_identity_ne_placed.symm]
    | some t => simp [Diagnostic.placed_identity_eq_iff]

theorem filed_eq {f : Finding} (h : f.isFiledAt sources sourceList path = true)
    (ht : sourceText? sources path = some text) :
    f.filed sources sourceList = .ok (path, f.diagnosticIn sources sourceList path text) := by
  simp only [isFiledAt, Bool.and_eq_true, decide_eq_true_eq] at h
  obtain ⟨hread, rfl⟩ := h
  have hd := Diagnostic.ofFinding_of_none (isReadable_iff.1 hread)
    (f.text? sources sourceList) (f.path sources sourceList)
    ((f.text? sources sourceList).map LineTable.ofText)
  have hkey : f.diagnose sources sourceList =
      .ok (f.diagnosticIn sources sourceList (f.path sources sourceList) text) := by
    rw [diagnose, hd, diagnosticIn, place?]
    cases hl : f.listed? sources sourceList with
    | none => cases f.entry? <;> simp [text?, hl]
    | some file =>
      have hfile : f.path sources sourceList = file := by rw [Finding.path, hl, Option.getD_some]
      have htext : f.text? sources sourceList = some text := by
        rw [text?, hl, Option.bind_some, ← hfile, ht]
      cases f.entry? <;> simp [htext]
  rw [Finding.filed, hkey]; rfl

end

end Finding

/-! ## The report of a file -/

section
variable {sources : Json.Members} {sourceList : List String} {path text : String}

theorem filed_at (ht : sourceText? sources path = some text) :
    ∀ {findings : List Finding} {filed : List (String × Diagnostic)},
      (findings.filter Finding.isReadable).mapM (Finding.filed sources sourceList) = .ok filed →
      (filed.filter (·.1 = path)).map (·.2) =
        (findings.filter (Finding.isFiledAt sources sourceList path)).map
          (Finding.diagnosticIn sources sourceList path text)
  | [], filed, h => by cases h; rfl
  | f :: findings, filed, h => by
    by_cases hread : f.isReadable = true
    · obtain ⟨d, -, hf⟩ := Finding.filed_of_none sources sourceList (Finding.isReadable_iff.1 hread)
      rw [List.filter_cons_of_pos hread, List.mapM_cons, hf, ok_bind] at h
      obtain ⟨rest, hrest, h⟩ := bind_eq_ok.1 h
      cases h
      have ih := filed_at ht hrest
      by_cases hp : f.path sources sourceList = path
      · have hat : f.isFiledAt sources sourceList path = true := by
          simp [Finding.isFiledAt, hread, hp]
        have hd := (Finding.filed_eq hat ht).symm.trans hf
        simp only [Except.ok.injEq, Prod.mk.injEq] at hd
        simp [hp, hat, ih, hd.2]
      · have hat : ¬ f.isFiledAt sources sourceList path = true := by
          simp [Finding.isFiledAt, hp]
        rw [List.filter_cons_of_neg hat, List.filter_cons_of_neg (by simpa using hp), ih]
    · have hat : ¬ f.isFiledAt sources sourceList path = true := by
        simp [Finding.isFiledAt, hread]
      rw [List.filter_cons_of_neg hread] at h
      rw [List.filter_cons_of_neg hat, filed_at ht h]

theorem messagesAt_eq (ht : sourceText? sources path = some text) {findings : List Finding}
    {filed : List (String × Diagnostic)}
    (h : (findings.filter Finding.isReadable).mapM (Finding.filed sources sourceList) =
      .ok filed) :
    messagesAt path filed = (Finding.firstsAt sources sourceList path findings).map
      (Finding.diagnosticIn sources sourceList path text) := by
  rw [messagesAt, filed_at ht h, Finding.firstsAt, ← eraseDupsBy_filter]
  exact (map_eraseDupsBy _ _ _ Finding.diagnosticIn_identity_eq_iff _).symm

theorem flatMap_messages (filed : List (String × Diagnostic)) (path : String) :
    (((filed.map (·.1)).eraseDups.map fun p => Report.ofMessages p (messagesAt p filed)).filter
      (·.filePath = path)).flatMap Report.messages = messagesAt path filed := by
  have hcomp : ((fun r : Report => decide (r.filePath = path)) ∘
      fun p => Report.ofMessages p (messagesAt p filed)) = fun p => decide (p = path) := rfl
  rw [List.filter_map, hcomp, List.filter_eq, List.flatMap_map]
  by_cases h : path ∈ filed.map (·.1)
  · rw [List.count_eq_one_of_mem (nodup_eraseDups _) (List.mem_eraseDups.2 h)]
    simp [Report.ofMessages]
  · rw [List.count_eq_zero_of_not_mem (mt List.mem_eraseDups.1 h), messagesAt_eq_nil_iff.2 h]
    rfl

/-- **The report of a file with a known text holds the findings that repeat no earlier one**: a
finding that is filed there is left out iff an earlier one has its mark, and each mark remains. -/
theorem ofFindingsIn_merges (findings : List Finding) {sources : Json.Members}
    (sourceList : List String) {path text : String}
    (ht : sourceText? sources path = some text) :
    ∃ reports,
      (Report.ofFindingsIn findings (.obj sources) (.texts sourceList)).1 = .ok reports ∧
      ((reports.filter (·.filePath = path)).flatMap Report.messages).map Diagnostic.finding =
        (Finding.firstsAt sources sourceList path findings).map some ∧
      ∀ f ∈ findings, f.isFiledAt sources sourceList path = true →
        ∃ g ∈ Finding.firstsAt sources sourceList path findings,
          g.mark sources sourceList = f.mark sources sourceList := by
  obtain ⟨reports, hb, hr⟩ := Report.ofFindings_eq sources sourceList findings
  obtain ⟨filed, hf, rfl⟩ := Report.ofBatch_eq hb
  refine ⟨_, by rw [ofFindingsIn_texts, hr], ?_, fun f hmem hat => ?_⟩
  · rw [flatMap_messages, messagesAt_eq ht hf, List.map_map]
    exact List.map_congr_left fun f _ => Finding.diagnosticIn_finding f
  · -- each mark of a finding that is filed under the path remains
    have hmark : f.mark sources sourceList ∈
        (Finding.firstsAt sources sourceList path findings).map
          (Finding.mark sources sourceList) := by
      rw [Finding.firstsAt, ← eraseDupsBy_filter, mem_map_eraseDupsBy]
      exact List.mem_map_of_mem (List.mem_filter.2 ⟨hmem, hat⟩)
    exact List.mem_map.1 hmark

end

/-- Of three findings in one file, the second one repeats the first; the third one points to other
bytes. -/
theorem repeated_finding_merges :
    let sources : Json.Members := [("a.sol", .str "a\nb\n")]
    let reported (token tail : String) : Finding :=
      { description := { head := "h", tail }
        locations :=
          [{ sourceMap := token, sourceType := "solidity-file", sourceFormat := "text" }] }
    let findings := [reported "2:1:0" "t", reported "2:1:0;" "u", reported "2:9:0" "t"]
    sourceText? sources "a.sol" = some "a\nb\n" ∧
    ∃ reports,
      (Report.ofFindingsIn findings (.obj sources) (.texts ["/a.sol"])).1 = .ok reports ∧
      ((reports.filter (·.filePath = "a.sol")).flatMap Report.messages).map Diagnostic.finding =
        [some (reported "2:1:0" "t"), some (reported "2:9:0" "t")] := by
  intro sources reported findings
  have ht : sourceText? sources "a.sol" = some "a\nb\n" := rfl
  obtain ⟨reports, hreports, hfirsts, -⟩ := ofFindingsIn_merges findings ["/a.sol"] ht
  exact ⟨ht, reports, hreports, hfirsts.trans rfl⟩

/-- Two findings whose files are beyond the source list are one diagnostic, though their locations
differ and there is a file of the name under which they are filed. -/
theorem stray_findings_merge :
    let sources : Json.Members := [(unknownFile, .str "abc")]
    let stray (token : String) : Finding :=
      { locations :=
          [{ sourceMap := token, sourceType := "solidity-file", sourceFormat := "text" }] }
    let findings := [stray "0:1:7", stray "1:2:7"]
    sourceText? sources unknownFile = some "abc" ∧
    (∀ f ∈ findings, f.isFiledAt sources [] unknownFile = true) ∧
    findings.map (fun f => f.entry?.map Entry.span) = [some ⟨0, 1⟩, some ⟨1, 2⟩] ∧
    (Report.ofFindingsIn findings (.obj sources) (.texts [])).1.toOption.map
      (·.map fun r => (r.filePath, r.messages.length)) = some [(unknownFile, 1)] := by
  refine ⟨rfl, ?_, rfl, by decide +kernel⟩
  simp only [List.forall_mem_cons]
  exact ⟨rfl, rfl, nofun⟩

end ContractAudit
