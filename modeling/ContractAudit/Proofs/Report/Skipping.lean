/-
  Findings whose location cannot be read.

  * `ofFindingsIn_skips`: such a finding costs only itself.  A batch never fails, its reports are
    those of the readable findings alone, and its log has one note per other finding, in the order
    of the batch, with the name of the finding and what is wrong with its location.
  * `Report.ofFindings_eq_nil_iff`: there are no reports iff no finding is readable, and then there
    is a note for each of them (`length_notes`).
-/
import Mathlib.Data.List.Forall2
import ContractAudit.Proofs.Report.Batch

namespace ContractAudit

theorem Finding.locationError?_eq_some {f : Finding} {e : LocationError} :
    f.locationError? = some e ↔
      ∃ location, f.authoritative? = some location ∧
        Entry.parse location.sourceMap = .error e := by
  rw [Finding.locationError?]
  cases f.authoritative? with
  | none => simp
  | some location => cases hp : Entry.parse location.sourceMap <;> simp [hp]

/-- The name of a finding in a note is its identifier, or the head of its description if there is
none. -/
theorem Grouping.note_eq (f : Finding) (e : LocationError) :
    Grouping.note f e = "Skipping finding " ++
      Text.quoted (if f.swcId.getD "" = "" then f.description.head else f.swcId.getD "") ++ ": " ++
      e.message := by
  obtain ⟨swcId, swcTitle, severity, description, locations, extra⟩ := f
  cases swcId with
  | none =>
    exact congrArg (fun name => "Skipping finding " ++ Text.quoted name ++ ": " ++ e.message)
      (if_pos (rfl : "" = "")).symm
  | some id => rfl

theorem notes_filter_isReadable (findings : List Finding) :
    ((findings.filter Finding.isReadable).filterMap fun f =>
      f.locationError?.map (Grouping.note f)) = [] := by
  rw [List.filterMap_eq_nil_iff]
  intro f hf
  rw [Finding.isReadable_iff.1 (List.mem_filter.1 hf).2, Option.map_none]

theorem forall₂_notes (findings : List Finding) :
    List.Forall₂ (fun f note => ∃ e, f.locationError? = some e ∧ note = Grouping.note f e)
      (findings.filter fun f => !f.isReadable)
      (findings.filterMap fun f => f.locationError?.map (Grouping.note f)) := by
  induction findings with
  | nil => exact .nil
  | cons f findings ih =>
    rw [List.filter_cons, List.filterMap_cons, Finding.isReadable]
    cases he : f.locationError? with
    | none => exact ih
    | some e => exact .cons ⟨e, he, rfl⟩ ih

theorem length_notes (findings : List Finding) :
    (findings.filterMap fun f => f.locationError?.map (Grouping.note f)).length =
      (findings.filter fun f => !f.isReadable).length :=
  (forall₂_notes findings).length_eq.symm

/-- **There are no reports iff no finding is readable.** -/
theorem Report.ofFindings_eq_nil_iff {findings : List Finding} {sources : Json.Members}
    {sourceList : List String} :
    (Report.ofFindings findings sources sourceList).1 = [] ↔
      ∀ f ∈ findings, f.isReadable = false := by
  obtain ⟨reports, hb, hr⟩ := Report.ofFindings_eq sources sourceList findings
  obtain ⟨filed, hfiled, rfl⟩ := Report.ofBatch_eq hb
  have hpaths : (filed.map (·.1)).eraseDups = [] ↔ filed = [] := by
    simp only [List.eq_nil_iff_forall_not_mem, List.mem_eraseDups]
    rw [← List.eq_nil_iff_forall_not_mem, ← List.eq_nil_iff_forall_not_mem, List.map_eq_nil_iff]
  rw [hr, List.map_eq_nil_iff, hpaths, ← List.length_eq_zero_iff,
    ← (mapM_eq_ok_iff.1 hfiled).length_eq, List.length_eq_zero_iff, List.filter_eq_nil_iff]
  simp only [Bool.not_eq_true]

/-- **An unreadable finding costs only itself**: the reports are those of the readable findings, and
the others are noted one by one. -/
theorem ofFindingsIn_skips (findings : List Finding) (sources : Json.Members)
    (sourceList : List String) :
    ∃ reports log,
      Report.ofFindingsIn findings (.obj sources) (.texts sourceList) = (.ok reports, log) ∧
      Report.ofFindingsIn (findings.filter Finding.isReadable) (.obj sources)
        (.texts sourceList) = (.ok reports, []) ∧
      List.Forall₂ (fun f note => ∃ location e, f.authoritative? = some location ∧
          Entry.parse location.sourceMap = .error e ∧
          note = "Skipping finding " ++
            Text.quoted (if f.swcId.getD "" = "" then f.description.head else f.swcId.getD "") ++
            ": " ++ e.message)
        (findings.filter fun f => !f.isReadable) log := by
  obtain ⟨reports, hb, hr⟩ := Report.ofFindings_eq sources sourceList findings
  obtain ⟨reports', hb', hr'⟩ := Report.ofFindings_eq sources sourceList
    (findings.filter Finding.isReadable)
  have he : reports' = reports := by
    rw [Report.ofBatch, List.filter_filter] at hb'
    simp only [Bool.and_self] at hb'
    rw [Report.ofBatch] at hb
    exact Except.ok.inj (hb'.symm.trans hb)
  refine ⟨reports, _, by rw [ofFindingsIn_texts, hr], ?_, ?_⟩
  · rw [ofFindingsIn_texts, hr', he, notes_filter_isReadable]
  · refine List.Forall₂.imp (fun f note h => ?_) (forall₂_notes findings)
    obtain ⟨e, he, rfl⟩ := h
    obtain ⟨location, hl, hp⟩ := Finding.locationError?_eq_some.1 he
    exact ⟨location, e, hl, hp, Grouping.note_eq f e⟩

end ContractAudit
