/-
  Findings in another order, or more than once.

  * `messagesAt_append`: what is filed again leaves no trace, and `perm_messagesAt`: which
    identities remain at a path is a matter of the set of what is filed;
  * `Report.ofFiled` are the reports of what is filed, `exists_filed` those of a batch;
  * `Report.Agrees`: two reports count the same diagnostics;
  * `ofFindingsIn_unordered`: two batches of the same findings have reports on the same paths that
    agree, and findings that are sent again at the end change nothing at all.
-/
import ContractAudit.Proofs.Answers
import ContractAudit.Proofs.Diagnostic.Identity
import ContractAudit.Proofs.Report.Batch

namespace ContractAudit

/-! ## What is filed at a path -/

section
variable {filed others : List (String × Diagnostic)}

theorem messagesAt_append (path : String) (h : ∀ p ∈ others, p ∈ filed) :
    messagesAt path (filed ++ others) = messagesAt path filed := by
  rw [messagesAt, List.filter_append, List.map_append]
  refine eraseDupsBy_append Diagnostic.identity _ fun d hd => ?_
  obtain ⟨p, hp, rfl⟩ := List.mem_map.1 hd
  obtain ⟨hmem, hpath⟩ := List.mem_filter.1 hp
  exact List.mem_map_of_mem (List.mem_map_of_mem (List.mem_filter.2 ⟨h p hmem, hpath⟩))

/-- The identities that are filed at a path are a matter of the set of what is filed. -/
theorem mem_identities_iff (path : String) (h : ∀ p, p ∈ filed ↔ p ∈ others) (k : String) :
    k ∈ ((filed.filter (·.1 = path)).map (·.2)).map Diagnostic.identity ↔
      k ∈ ((others.filter (·.1 = path)).map (·.2)).map Diagnostic.identity := by
  simp only [List.mem_map, List.mem_filter, h]

theorem perm_messagesAt (path : String) (h : ∀ p, p ∈ filed ↔ p ∈ others) :
    ((messagesAt path filed).map Diagnostic.identity).Perm
      ((messagesAt path others).map Diagnostic.identity) :=
  perm_map_eraseDupsBy Diagnostic.identity (mem_identities_iff path h)

theorem countP_messagesAt (path : String) (h : ∀ p, p ∈ filed ↔ p ∈ others) :
    (messagesAt path filed).countP Diagnostic.isFatal =
      (messagesAt path others).countP Diagnostic.isFatal :=
  countP_eraseDupsBy Diagnostic.identity (fun _ _ => Diagnostic.isFatal_eq_of_identity_eq)
    (mem_identities_iff path h)

end

/-- The reports of what is filed. -/
def Report.ofFiled (filed : List (String × Diagnostic)) : List Report :=
  (filed.map (·.1)).eraseDups.map fun path => .ofMessages path (messagesAt path filed)

theorem Report.mem_paths_ofFiled {filed : List (String × Diagnostic)} {path : String} :
    path ∈ (ofFiled filed).map filePath ↔ ∃ d, (path, d) ∈ filed := by
  simp [ofFiled, ofMessages, Function.comp_def]

/-- What is filed again changes no report. -/
theorem Report.ofFiled_append {filed others : List (String × Diagnostic)}
    (h : ∀ p ∈ others, p ∈ filed) : ofFiled (filed ++ others) = ofFiled filed := by
  have hpaths : ((filed ++ others).map (·.1)).eraseDups = (filed.map (·.1)).eraseDups := by
    rw [List.map_append]
    refine eraseDups_append _ fun path hpath => ?_
    obtain ⟨p, hp, rfl⟩ := List.mem_map.1 hpath
    exact List.mem_map_of_mem (h p hp)
  rw [ofFiled, ofFiled, hpaths]
  exact List.map_congr_left fun path _ => by rw [messagesAt_append path h]

/-! ## Reports that agree -/

/-- Two reports count the same diagnostics. -/
structure Report.Agrees (r r' : Report) : Prop where
  identities : ∀ k, k ∈ r.messages.map Diagnostic.identity ↔
    k ∈ r'.messages.map Diagnostic.identity
  errorCount : r.errorCount = r'.errorCount
  warningCount : r.warningCount = r'.warningCount

/-- The reports of a path agree if the same is filed for both. -/
theorem Report.agrees_of_filed {filed others : List (String × Diagnostic)}
    (h : ∀ p, p ∈ filed ↔ p ∈ others) :
    ∀ r ∈ ofFiled filed, ∀ r' ∈ ofFiled others, r.filePath = r'.filePath → r.Agrees r' := by
  intro r hr r' hr' hpath
  obtain ⟨path, -, rfl⟩ := List.mem_map.1 hr
  obtain ⟨path', -, rfl⟩ := List.mem_map.1 hr'
  cases (hpath : path = path')
  have hperm := perm_messagesAt path h
  have hfatal := countP_messagesAt path h
  rw [List.countP_eq_length_filter, List.countP_eq_length_filter] at hfatal
  have hlength : (messagesAt path filed).length = (messagesAt path others).length := by
    simpa using hperm.length_eq
  exact { identities := fun k => hperm.mem_iff
          errorCount := hfatal
          warningCount := by rw [ofMessages, ofMessages, hlength, hfatal] }

/-! ## Batches -/

section
variable (sources : Json.Members) (sourceList : List String)

theorem exists_filed (findings : List Finding) :
    ∃ filed,
      (findings.filter Finding.isReadable).mapM (Finding.filed sources sourceList) = .ok filed ∧
      (Report.ofFindingsIn findings (.obj sources) (.texts sourceList)).1 =
        .ok (Report.ofFiled filed) := by
  obtain ⟨reports, hb, hr⟩ := Report.ofFindings_eq sources sourceList findings
  obtain ⟨filed, hf, rfl⟩ := Report.ofBatch_eq hb
  exact ⟨filed, hf, by rw [ofFindingsIn_texts, hr]; rfl⟩

variable {sources sourceList}

theorem mem_filed_of_subset {findings others : List Finding}
    {filed filed' : List (String × Diagnostic)} (h : ∀ f ∈ others, f ∈ findings)
    (hf : (findings.filter Finding.isReadable).mapM (Finding.filed sources sourceList) = .ok filed)
    (hf' : (others.filter Finding.isReadable).mapM (Finding.filed sources sourceList) =
      .ok filed') : ∀ p ∈ filed', p ∈ filed := by
  intro p hp
  obtain ⟨f, hmem, hfiled⟩ := (mem_iff_of_mapM hf' p).1 hp
  obtain ⟨hother, hread⟩ := List.mem_filter.1 hmem
  exact (mem_iff_of_mapM hf p).2 ⟨f, List.mem_filter.2 ⟨h f hother, hread⟩, hfiled⟩

end

/-- **Neither the order nor the repetition of findings matters.** Batches of the same findings have
reports on the same paths, which count the same diagnostics; and a batch to which findings of its
own are added has the very same reports. -/
theorem ofFindingsIn_unordered (findings others : List Finding) (sources : Json.Members)
    (sourceList : List String) :
    ((∀ f, f ∈ findings ↔ f ∈ others) → ∃ reports reports',
      (Report.ofFindingsIn findings (.obj sources) (.texts sourceList)).1 = .ok reports ∧
      (Report.ofFindingsIn others (.obj sources) (.texts sourceList)).1 = .ok reports' ∧
      (∀ path, path ∈ reports.map Report.filePath ↔ path ∈ reports'.map Report.filePath) ∧
      ∀ r ∈ reports, ∀ r' ∈ reports', r.filePath = r'.filePath → r.Agrees r') ∧
    ((∀ f ∈ others, f ∈ findings) → ∃ reports,
      (Report.ofFindingsIn (findings ++ others) (.obj sources) (.texts sourceList)).1 =
        .ok reports ∧
      (Report.ofFindingsIn findings (.obj sources) (.texts sourceList)).1 = .ok reports) := by
  obtain ⟨filed, hf, hr⟩ := exists_filed sources sourceList findings
  obtain ⟨filed', hf', hr'⟩ := exists_filed sources sourceList others
  constructor
  · intro hsame
    have hfiled : ∀ p, p ∈ filed ↔ p ∈ filed' := fun p =>
      ⟨mem_filed_of_subset (fun f => (hsame f).1) hf' hf p,
        mem_filed_of_subset (fun f => (hsame f).2) hf hf' p⟩
    refine ⟨_, _, hr, hr', fun path => ?_, Report.agrees_of_filed hfiled⟩
    simp only [Report.mem_paths_ofFiled, hfiled]
  · intro hmore
    obtain ⟨both, hboth, hr₂⟩ := exists_filed sources sourceList (findings ++ others)
    rw [List.filter_append, mapM_append_eq_ok hf hf', Except.ok.injEq] at hboth
    rw [← hboth, Report.ofFiled_append (mem_filed_of_subset hmore hf hf')] at hr₂
    exact ⟨_, hr₂, hr⟩

/-- Two findings in two files, and the same ones from behind with a repetition: the files come in
another order, with the same diagnostics. -/
theorem reversed_findings_agree :
    let sources : Json.Members := [("a.sol", .str "a\n"), ("b.sol", .str "b\n")]
    let reported (token severity : String) : Finding :=
      { severity
        locations :=
          [{ sourceMap := token, sourceType := "solidity-file", sourceFormat := "text" }] }
    let findings := [reported "0:1:0" "High", reported "0:1:1" "Low"]
    let others := [reported "0:1:1" "Low", reported "0:1:0" "High", reported "0:1:1" "Low"]
    let reportsOf (batch : List Finding) :=
      (Report.ofFindingsIn batch (.obj sources) (.texts ["a.sol", "b.sol"])).1
    (∀ f, f ∈ findings ↔ f ∈ others) ∧ (∀ f ∈ others, f ∈ findings) ∧
    (reportsOf findings).toOption.map (·.map Report.filePath) = some ["a.sol", "b.sol"] ∧
    (reportsOf others).toOption.map (·.map Report.filePath) = some ["b.sol", "a.sol"] ∧
    (∃ reports reports', reportsOf findings = .ok reports ∧ reportsOf others = .ok reports' ∧
      ∀ r ∈ reports, ∀ r' ∈ reports', r.filePath = r'.filePath → r.Agrees r') ∧
    ∃ reports, reportsOf (findings ++ others) = .ok reports ∧ reportsOf findings = .ok reports := by
  intro sources reported findings others reportsOf
  have hsame : ∀ f, f ∈ findings ↔ f ∈ others := by
    intro f
    simp only [findings, others, List.mem_cons, List.not_mem_nil, or_false]
    tauto
  have hmore : ∀ f ∈ others, f ∈ findings := fun f => (hsame f).2
  obtain ⟨hset, happend⟩ := ofFindingsIn_unordered findings others sources ["a.sol", "b.sol"]
  obtain ⟨reports, reports', hr, hr', -, hagree⟩ := hset hsame
  exact ⟨hsame, hmore, by decide +kernel, by decide +kernel, ⟨reports, reports', hr, hr', hagree⟩,
    happend hmore⟩

end ContractAudit
