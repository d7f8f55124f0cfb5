/-
  Findings whose sources are not known.

  * `length_messages`: there are as many diagnostics in the reports of what is filed as there are
    distinct pairs of a path and an identity;
  * `Finding.label` is what tells a finding from the others of its file where no text is known: the
    head of its description, its severity and its rule, but not the bytes it points to;
  * `filed_without_sources` and `unplaced_key_eq_iff`: without sources, two findings of one path are
    one diagnostic iff they have one label;
  * `ofFindingsIn_unplaced`: hence what the reports hold, and how many diagnostics there are
    (`unplaced_findings_merge` has fewer of them than distinct places).
-/
import Mathlib.Data.Prod.Basic
import ContractAudit.Proofs.Report.Duplicates
import ContractAudit.Proofs.Report.Unordered

namespace ContractAudit

/-! ## Counting diagnostics -/

section
variable {filed : List (String × Diagnostic)}

/-- A path with the identities that remain there. -/
def keysAt (filed : List (String × Diagnostic)) (path : String) : List (String × String) :=
  ((messagesAt path filed).map Diagnostic.identity).map (Prod.mk path)

theorem mem_keysAt {path : String} {key : String × String} :
    key ∈ keysAt filed path ↔
      key.1 = path ∧ key ∈ filed.map fun p => (p.1, p.2.identity) := by
  obtain ⟨other, identity⟩ := key
  have hmem : identity ∈ (messagesAt path filed).map Diagnostic.identity ↔
      ∃ d, (path, d) ∈ filed ∧ d.identity = identity := by
    rw [messagesAt, mem_map_eraseDupsBy]
    simp
  rw [keysAt, List.mem_map]
  constructor
  · rintro ⟨_, hidentity, ⟨⟩⟩
    obtain ⟨d, hd, rfl⟩ := hmem.1 hidentity
    exact ⟨rfl, List.mem_map.2 ⟨_, hd, rfl⟩⟩
  · rintro ⟨rfl, hkey⟩
    obtain ⟨⟨path, d⟩, hd, hkey⟩ := List.mem_map.1 hkey
    cases hkey
    exact ⟨_, hmem.2 ⟨d, hd, rfl⟩, rfl⟩

theorem nodup_keysAt {paths : List String} (h : paths.Nodup) :
    (paths.flatMap (keysAt filed)).Nodup := by
  rw [List.nodup_flatMap]
  refine ⟨fun path _ => ?_, h.imp fun {path other} hne => List.disjoint_left.2 ?_⟩
  · exact (nodup_map_eraseDupsBy Diagnostic.identity _).map (Prod.mk_right_injective path)
  · exact fun key hpath hother => hne ((mem_keysAt.1 hpath).1.symm.trans (mem_keysAt.1 hother).1)

/-- **There is one diagnostic for each path and identity.** -/
theorem length_messages (filed : List (String × Diagnostic)) :
    ((Report.ofFiled filed).flatMap Report.messages).length =
      (filed.map fun p => (p.1, p.2.identity)).eraseDups.length := by
  have hkeys : ((Report.ofFiled filed).flatMap Report.messages).length =
      ((filed.map (·.1)).eraseDups.flatMap (keysAt filed)).length := by
    simp only [Report.ofFiled, Report.ofMessages, keysAt, List.flatMap_map, List.length_flatMap,
      List.length_map]
  rw [hkeys]
  refine List.Perm.length_eq ((List.perm_ext_iff_of_nodup (nodup_keysAt (nodup_eraseDups _))
    (nodup_eraseDups _)).2 fun key => ?_)
  simp only [List.mem_flatMap, List.mem_eraseDups, mem_keysAt]
  constructor
  · rintro ⟨path, -, -, hkey⟩
    exact hkey
  · intro hkey
    obtain ⟨p, hp, rfl⟩ := List.mem_map.1 hkey
    exact ⟨p.1, List.mem_map_of_mem hp, rfl, hkey⟩

end

/-! ## Findings without a text -/

/-- What tells a finding from the others of its file where no text is known. -/
structure Finding.Label where
  head : String
  severity : Option String
  /-- The identifier of its rule; an empty one stands for none. -/
  rule : String
deriving DecidableEq

namespace Finding

/-- The label of a finding. -/
def label (f : Finding) : Label :=
  { head := f.description.head, severity := f.severity, rule := f.swcId.getD "" }

section
variable (sourceList : List String)

/-- Without sources, the findings that are filed under a path and whose label no earlier one of them
has. -/
def firstLabelledAt (path : String) (findings : List Finding) : List Finding :=
  (findings.zipIdx.filter fun (f, i) => f.isFiledAt [] sourceList path &&
    !(findings.take i).any fun e => e.isFiledAt [] sourceList path && e.label == f.label).map (·.1)

/-- Without sources, the path of a finding and what is known about it. -/
def unplaced (f : Finding) : String × Diagnostic :=
  (f.path [] sourceList, Diagnostic.unresolved f (some (f.path [] sourceList)))

variable {sourceList}

/-- **Without sources, no position is known.** -/
theorem filed_without_sources {f : Finding} (h : f.isReadable = true) :
    f.filed [] sourceList = .ok (f.unplaced sourceList) := by
  have htext : f.text? [] sourceList = none := by
    rw [text?, Option.bind_eq_none_iff]
    exact fun _ _ => rfl
  rw [filed, diagnose, htext, Option.map_none, Diagnostic.ofFinding_of_none (isReadable_iff.1 h)]
  cases f.entry? <;> rfl

theorem unresolved_identity_eq_iff_label {f g : Finding} {path : String} :
    (Diagnostic.unresolved f (some path)).identity =
      (Diagnostic.unresolved g (some path)).identity ↔ f.label = g.label := by
  rw [Diagnostic.unresolved_identity_eq_iff, label, label, Label.mk.injEq]

/-- **Two findings of one path are one diagnostic iff they have one label.** -/
theorem unplaced_key_eq_iff {f g : Finding} :
    ((f.unplaced sourceList).1, (f.unplaced sourceList).2.identity) =
      ((g.unplaced sourceList).1, (g.unplaced sourceList).2.identity) ↔
    (f.path [] sourceList, f.label) = (g.path [] sourceList, g.label) := by
  simp only [unplaced, Prod.mk.injEq]
  refine and_congr_right fun hpath => ?_
  rw [hpath]
  exact unresolved_identity_eq_iff_label

theorem isReadable_of_listed? {sources : Json.Members} {f : Finding}
    (h : (f.listed? sources sourceList).isSome = true) : f.isReadable = true := by
  rw [isReadable_iff, locationError?]
  rw [listed?, entry?] at h
  cases hl : f.authoritative? with
  | none => rfl
  | some location =>
    cases hp : Entry.parse location.sourceMap with
    | ok entry => simp [hp]
    | error e => simp [hl, hp, Except.toOption] at h

end

end Finding

/-! ## Batches without sources -/

section
variable (sourceList : List String) (findings : List Finding)

theorem mapM_filed_without_sources :
    (findings.filter Finding.isReadable).mapM (Finding.filed [] sourceList) =
      .ok ((findings.filter Finding.isReadable).map (Finding.unplaced sourceList)) :=
  mapM_eq_ok_map fun _ hf => Finding.filed_without_sources (List.mem_filter.1 hf).2

theorem unplaced_at (path : String) :
    (((findings.filter Finding.isReadable).map (Finding.unplaced sourceList)).filter
        (·.1 = path)).map (·.2) =
      (findings.filter (Finding.isFiledAt [] sourceList path)).map
        (Diagnostic.unresolved · (some path)) := by
  have hpath : ((fun p : String × Diagnostic => decide (p.1 = path)) ∘
      Finding.unplaced sourceList) = fun f => decide (f.path [] sourceList = path) := rfl
  have hat : (fun f : Finding => decide (f.path [] sourceList = path) && f.isReadable) =
      Finding.isFiledAt [] sourceList path := by
    funext f
    rw [Bool.and_comm]
    rfl
  rw [List.filter_map, List.filter_filter, hpath, hat, List.map_map]
  refine List.map_congr_left fun f hf => ?_
  have hf : f.isReadable = true ∧ f.path [] sourceList = path := by
    simpa [Finding.isFiledAt] using (List.mem_filter.1 hf).2
  rw [Function.comp_apply, Finding.unplaced, hf.2]

theorem messagesAt_unplaced (path : String) :
    messagesAt path ((findings.filter Finding.isReadable).map (Finding.unplaced sourceList)) =
      (Finding.firstLabelledAt sourceList path findings).map
        (Diagnostic.unresolved · (some path)) := by
  rw [messagesAt, unplaced_at, Finding.firstLabelledAt, ← eraseDupsBy_filter]
  exact (map_eraseDupsBy Finding.label _ _
    (fun _ _ => Finding.unresolved_identity_eq_iff_label) _).symm

theorem length_eraseDups_unplaced :
    ((findings.map (Finding.unplaced sourceList)).map fun p =>
      (p.1, p.2.identity)).eraseDups.length =
      (findings.map fun f => (f.path [] sourceList, f.label)).eraseDups.length := by
  rw [List.map_map]
  exact length_eraseDups_map (fun _ _ => Finding.unplaced_key_eq_iff) findings

end

/-- **Without sources, findings are told apart by their labels alone.** A diagnostic is the finding
of its path whose label no earlier one has, and each label remains. There are as many diagnostics as
pairs of a path and a label, and hence at least as many as such pairs among the findings with a
file. -/
theorem ofFindingsIn_unplaced (findings : List Finding) (sourceList : List String) :
    ∃ reports,
      (Report.ofFindingsIn findings (.obj []) (.texts sourceList)).1 = .ok reports ∧
      (∀ path, (reports.filter (·.filePath = path)).flatMap Report.messages =
          (Finding.firstLabelledAt sourceList path findings).map
            (Diagnostic.unresolved · (some path)) ∧
        ∀ f ∈ findings, f.isFiledAt [] sourceList path = true →
          ∃ g ∈ Finding.firstLabelledAt sourceList path findings, g.label = f.label) ∧
      (reports.flatMap Report.messages).length =
        ((findings.filter Finding.isReadable).map fun f =>
          (f.path [] sourceList, f.label)).eraseDups.length ∧
      ((findings.filter fun f => (f.listed? [] sourceList).isSome).map fun f =>
          (f.path [] sourceList, f.label)).eraseDups.length ≤
        (reports.flatMap Report.messages).length := by
  obtain ⟨filed, hfiled, hreports⟩ := exists_filed [] sourceList findings
  obtain rfl : filed = (findings.filter Finding.isReadable).map (Finding.unplaced sourceList) :=
    Except.ok.inj (hfiled.symm.trans (mapM_filed_without_sources sourceList findings))
  have hcount := (length_messages _).trans
    (length_eraseDups_unplaced sourceList (findings.filter Finding.isReadable))
  refine ⟨_, hreports, fun path => ⟨?_, fun f hmem hat => ?_⟩, hcount, ?_⟩
  · rw [Report.ofFiled, flatMap_messages, messagesAt_unplaced]
  · have hlabel : f.label ∈
        (Finding.firstLabelledAt sourceList path findings).map Finding.label := by
      rw [Finding.firstLabelledAt, ← eraseDupsBy_filter, mem_map_eraseDupsBy]
      exact List.mem_map_of_mem (List.mem_filter.2 ⟨hmem, hat⟩)
    exact List.mem_map.1 hlabel
  · -- the findings with a file are among the readable ones
    rw [hcount]
    refine length_eraseDups_le (List.map_subset _ fun f hf => ?_)
    obtain ⟨hmem, hfile⟩ := List.mem_filter.1 hf
    exact List.mem_filter.2 ⟨hmem, Finding.isReadable_of_listed? hfile⟩

/-- Two findings in one file whose locations differ are one diagnostic. -/
theorem unplaced_findings_merge :
    let reported (token : String) : Finding :=
      { locations := [{ sourceMap := token, sourceType := "solidity-file", sourceFormat := "text",
                        sourceList := ["C.sol"] }] }
    let findings := [reported "0:1:0", reported "5:2:0"]
    let places := findings.map fun f => (f.listed? [] [], f.entry?.map Entry.span, f.label)
    (∀ f ∈ findings, f.isReadable = true ∧ f.listed? [] [] = some "C.sol") ∧
    places.eraseDups.length = 2 ∧
    (Report.ofFindingsIn findings (.obj []) (.texts [])).1.toOption.map
      (fun reports => (reports.flatMap Report.messages).length) = some 1 := by
  refine ⟨?_, by decide +kernel, by decide +kernel⟩
  simp only [List.forall_mem_cons]
  exact ⟨⟨rfl, rfl⟩, ⟨rfl, rfl⟩, nofun⟩

end ContractAudit
