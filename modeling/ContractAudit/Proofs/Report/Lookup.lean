/-
  Looking files up among sources that are an object, by lists of texts.

  * `fileIn_ofTexts`: what an index names in a list of texts;
  * `fileIn_texts`: on such values the look-up for values of any kind is that for texts;
  * `ofFindingsIn_texts`: hence no finding makes a batch fail, and its reports are those of
    `Report.ofFindings`.
-/
import Mathlib.Data.List.TakeDrop
import Mathlib.Data.List.TakeWhile
import ContractAudit.Proofs.Json.Order
import ContractAudit.Report.Lookup

namespace ContractAudit

theorem holds_obj (ms : Json.Members) (key : String) :
    (Json.obj ms).holds (.str key) = .ok (decide (key ∈ Keyed.keys ms)) := by
  simp only [Json.holds, Json.memberAt?, Except.map, Keyed.isSome_lookup?]

theorem pathIn_obj (ms : Json.Members) (path : String) :
    pathIn (.obj ms) (.str path) = .ok (.str (knownPath (Keyed.keys ms) path)) := by
  simp only [pathIn, holds_obj, knownPath, Json.asText, ok_bind]
  by_cases h : path ∈ Keyed.keys ms
  · simp only [h, decide_true, if_true, not_true, false_and, if_false]
    split <;> rfl
  · simp only [h, decide_false, Bool.false_eq_true, if_false, not_false_eq_true, true_and]
    split
    · rename_i bare _
      by_cases hb : String.ofList bare ∈ Keyed.keys ms <;> simp [hb] <;> rfl
    · rfl

theorem select_texts (files : List String) (n : Nat) :
    (Json.texts files).select (.int n) =
      match files[n]? with
      | some path => .ok (.str path)
      | none => .error .noElement := by
  have hn : ¬ (n : Int) < 0 := by omega
  simp only [Json.texts, Json.select, Json.select.element, hn, if_false, List.getElem?_map]
  cases files[n]? <;> rfl

/-- The look-up of a file index in a list of texts: the path at its place, as it is known. -/
theorem fileIn_ofTexts (index : Int) (files : List String) (sources : Json) :
    fileIn (.int index) (.texts files) sources =
      if index < 0 then failWith ⟨.int index, files.map .str⟩
      else
        match files[index.toNat]? with
        | some path => liftM (pathIn sources (.str path))
        | none => failWith ⟨.int index, files.map .str⟩ := by
  have hsize : (Json.texts files).size = .ok files.length := by
    simp [Json.size, Json.texts, Json.elements, Except.map]
  have helements : (Json.texts files).elements = .ok (files.map .str) := rfl
  simp only [fileIn, Json.less_int, hsize, helements, liftM_ok, ok_bind, decide_eq_true_eq]
  by_cases h0 : index < 0
  · rw [if_pos h0, if_pos h0]; rfl
  · obtain ⟨n, rfl⟩ := Int.eq_ofNat_of_zero_le (Int.not_lt.1 h0)
    rw [if_neg h0, if_neg h0, Int.toNat_natCast]
    by_cases hn : n < files.length
    · rw [if_pos (by omega), select_texts, List.getElem?_eq_getElem hn, liftM_ok, ok_bind]
    · rw [if_neg (by omega), List.getElem?_eq_none (by omega)]

theorem fileIn_texts (index : Int) (files : List String) (ms : Json.Members) :
    fileIn (.int index) (.texts files) (.obj ms) =
      match fileAt index files (Keyed.keys ms) with
      | .ok path => .ok (.str path)
      | .error e => .error (.error e) := by
  rw [fileIn_ofTexts, fileAt]
  split
  · rfl
  · cases files[index.toNat]? with
    | none => rfl
    | some path => simp only [pathIn_obj]; rfl

/-- Nothing goes wrong when the file of a finding is looked up. -/
theorem lookupDefect?_texts (sources : Json.Members) (files : List String) (f : Finding) :
    lookupDefect? (.obj sources) (.texts files) f = none := by
  have hchoice (l : List String) : (if l.isEmpty = true then .texts files else .texts l) =
      Json.texts (if l.isEmpty = true then files else l) := by split <;> rfl
  unfold lookupDefect?
  cases f.authoritative? with
  | none => rfl
  | some location =>
    cases hp : (Entry.parse location.sourceMap).toOption with
    | none => simp [hp]
    | some entry =>
      simp only [Option.bind_eq_bind, Option.bind_some, hp, hchoice, fileIn_texts]
      cases fileAt entry.file (if location.sourceList.isEmpty = true then files
        else location.sourceList) (Keyed.keys sources) <;> rfl

/-- **No finding makes a batch fail**, and its reports are those of `Report.ofFindings`. -/
theorem ofFindingsIn_texts (findings : List Finding) (sources : Json.Members)
    (sourceList : List String) :
    Report.ofFindingsIn findings (.obj sources) (.texts sourceList) =
      (.ok (Report.ofFindings findings sources sourceList).1,
        (Report.ofFindings findings sources sourceList).2) := by
  have helements : ((Json.texts sourceList).orElse (.arr [])).elements =
      .ok (sourceList.map .str) := by
    cases sourceList <;> rfl
  have hnone : ∀ f, lookupDefect? (.obj sources) (.arr (sourceList.map .str)) f = none :=
    lookupDefect?_texts sources sourceList
  have hfiles : (sourceList.map Json.str).map Json.display = sourceList := by
    rw [List.map_map]; exact List.map_id' sourceList
  have hspan : findings.span (fun _ => true) = (findings, []) := by
    rw [List.span_eq_takeWhile_dropWhile, List.takeWhile_eq_self_iff.2 fun _ _ => rfl,
      List.dropWhile_eq_nil_iff.2 fun _ _ => rfl]
  simp only [Report.ofFindingsIn, helements, hnone, hfiles, Option.isNone_none, hspan]
  rfl

end ContractAudit
