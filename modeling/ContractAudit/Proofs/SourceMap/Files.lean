/-
  The files that source maps name by number.

  * `Numbers output sources`: the sources in the output of the compiler, by their paths and numbers.
  * `byNumber` has them in the order of their numbers.  If no number is repeated it is the only list
    of the sources in which the numbers increase (`eq_byNumber`), and its paths are the source list
    (`Numbers.sourceList_eq`).
  * `sourceList_byNumber`: so the source list does not depend on the order in which the output has
    its sources, and if their numbers are those below `n`, each names its own file in the list.
-/
import Mathlib.Data.List.Pairwise
import Mathlib.Data.List.Perm.Basic
import ContractAudit.Proofs.Json.Below
import ContractAudit.Proofs.Report.Lookup
import ContractAudit.Proofs.Submission

namespace ContractAudit

/-- The sources in the output of the compiler have these paths and numbers, in order; one without a
number counts as number zero. -/
def Numbers (output : Json) (sources : List (String × Int)) : Prop :=
  ∃ compiled, output.Opens "sources" compiled ∧
    List.Forall₂ (fun e source => e.1 = source.1 ∧ ∃ own, e.2 = .obj own ∧
      (Keyed.lookup? "id" own).getD (.int 0) = .int source.2) compiled sources

/-! ## The order of the numbers -/

/-- The sources in the order of their numbers. -/
def byNumber (sources : List (String × Int)) : List (String × Int) :=
  sources.mergeSort fun a b => decide (a.2 ≤ b.2)

section
variable {sources others : List (String × Int)}

theorem perm_byNumber (sources : List (String × Int)) : (byNumber sources).Perm sources :=
  List.mergeSort_perm _ _

theorem pairwise_byNumber (hnumbers : (sources.map (·.2)).Nodup) :
    (byNumber sources).Pairwise (·.2 < ·.2) := by
  have hle : (byNumber sources).Pairwise fun a b => decide (a.2 ≤ b.2) = true :=
    List.pairwise_mergeSort (fun a b c hab hbc => by simp only [decide_eq_true_eq] at *; omega)
      (fun a b => by simp only [Bool.or_eq_true, decide_eq_true_eq]; omega) sources
  have hne : (byNumber sources).Pairwise (·.2 ≠ ·.2) :=
    List.pairwise_map.1 (((perm_byNumber sources).map _).nodup_iff.2 hnumbers)
  refine (hle.and hne).imp fun {a b} h => ?_
  have hab : a.2 ≤ b.2 := of_decide_eq_true h.1
  have := h.2
  omega

/-- **Only one list of the sources has increasing numbers.** -/
theorem eq_byNumber (hperm : others.Perm sources) (hothers : others.Pairwise (·.2 < ·.2)) :
    others = byNumber sources := by
  have hnumbers : (sources.map (·.2)).Nodup :=
    (hperm.map _).nodup_iff.1 (List.pairwise_map.2 (hothers.imp fun h => Int.ne_of_lt h))
  refine List.Perm.eq_of_pairwise ?_ hothers (pairwise_byNumber hnumbers)
    (hperm.trans (perm_byNumber sources).symm)
  exact fun a b _ _ hab hba => absurd hab (Int.lt_asymm hba)

end

/-! ## The source list -/

section
variable {output : Json} {sources : List (String × Int)}

/-- **The source list has the paths in the order of their numbers.** -/
theorem Numbers.sourceList_eq (h : Numbers output sources) :
    sourceList output = .ok ((byNumber sources).map (·.1)) := by
  obtain ⟨compiled, hopens, hsources⟩ := h
  obtain ⟨v, hget, hv⟩ := hopens.exists_get
  have hcompiled : compiledSources output = .ok (.obj compiled) := by
    rw [compiledSources, hget, ok_bind, hv]
    rfl
  -- the keys by which the paths are sorted are the numbers
  have hpairs : compiled.mapM numbered = .ok (sources.map fun s => (.int s.2, s.1)) := by
    rw [mapM_eq_ok_iff, List.forall₂_map_right_iff]
    refine hsources.imp fun e source he => ?_
    obtain ⟨path, v⟩ := e
    obtain ⟨rfl, own, rfl, hnumber⟩ := he
    rw [← hnumber]
    rfl
  have hkeys : (sources.map fun s => (Json.int s.2, s.1)).map (·.1) =
      (sources.map (·.2)).map .int := by simp only [List.map_map, Function.comp_def]
  have hsorted : (sources.map fun s => (Json.int s.2, s.1)).mergeSort
      (fun a b => !((b.1.less a.1).toOption.getD false)) =
        (byNumber sources).map fun s => (.int s.2, s.1) := by
    refine (List.map_mergeSort fun a _ b _ => ?_).symm
    simp only [Json.less_int, Except.toOption, Option.getD_some, ← Int.not_lt, decide_not]
  have hlist : sourceList output = compiled.mapM numbered >>= Json.sortBy := by
    rw [sourceList, hcompiled]
    rfl
  rw [hlist, hpairs, ok_bind, Json.sortBy, hkeys, Json.checkOrdered_ints, ok_bind, hsorted,
    List.map_map]
  rfl

end

/-! ## Files by their numbers -/

section
variable {files : List String} {path : String}

theorem fileIn_eq_ok {n : Nat} (h : files[n]? = some path) :
    fileIn (.int n) (.texts files) .null = .ok (.str path) := by
  rw [fileIn_ofTexts, if_neg (by omega), Int.toNat_natCast, h]
  rfl

theorem fileIn_eq_failWith {index : Int} (h : ¬ (0 ≤ index ∧ index < files.length)) :
    fileIn (.int index) (.texts files) .null = failWith ⟨.int index, files.map .str⟩ := by
  rw [fileIn_ofTexts]
  split
  · rfl
  · rw [List.getElem?_eq_none (by omega)]

end

section
variable {output : Json} {sources : List (String × Int)}

/-- If the numbers are those below `n`, each stands at its own place. -/
theorem map_byNumber_eq {n : Nat}
    (hnumbers : (sources.map (·.2)).Perm ((List.range n).map .ofNat)) :
    (byNumber sources).map (·.2) = (List.range n).map .ofNat := by
  have hrange : ((List.range n).map Int.ofNat).Pairwise (· < ·) :=
    List.pairwise_map.2 (List.pairwise_lt_range.imp Int.ofNat_lt.2)
  have hnodup : (sources.map (·.2)).Nodup :=
    hnumbers.nodup_iff.2 (hrange.imp Int.ne_of_lt)
  refine List.Perm.eq_of_pairwise ?_ (List.pairwise_map.2 (pairwise_byNumber hnodup)) hrange
    (((perm_byNumber sources).map _).trans hnumbers)
  exact fun a b _ _ hab hba => absurd hab (Int.lt_asymm hba)

/-- **The source list names every source by its number.** It has each path once and in the order of
the numbers, in whatever order the output has the sources; and if the numbers are those below `n`,
an index names the path with that number, and any other index no file. -/
theorem sourceList_byNumber (h : Numbers output sources) (hpaths : (sources.map (·.1)).Nodup)
    (hnumbers : (sources.map (·.2)).Nodup) :
    ∃ sorted : List (String × Int), sourceList output = .ok (sorted.map (·.1)) ∧
      sorted.Perm sources ∧ sorted.Pairwise (·.2 < ·.2) ∧ (sorted.map (·.1)).Nodup ∧
      (∀ other others, Numbers other others → others.Perm sources →
        sourceList other = sourceList output) ∧
      ∀ n : Nat, (sources.map (·.2)).Perm ((List.range n).map .ofNat) → ∀ index : Int,
        (0 ≤ index ∧ index < n → ∃ path, (path, index) ∈ sources ∧
          fileIn (.int index) (.texts (sorted.map (·.1))) .null = .ok (.str path)) ∧
        (¬ (0 ≤ index ∧ index < n) →
          fileIn (.int index) (.texts (sorted.map (·.1))) .null =
            failWith ⟨.int index, (sorted.map (·.1)).map .str⟩) := by
  refine ⟨byNumber sources, h.sourceList_eq, perm_byNumber sources, pairwise_byNumber hnumbers,
    ((perm_byNumber sources).map _).nodup_iff.2 hpaths, ?_, ?_⟩
  · intro other others hother hperm
    have hothers : (others.map (·.2)).Nodup := (hperm.map _).nodup_iff.2 hnumbers
    rw [h.sourceList_eq, hother.sourceList_eq,
      eq_byNumber ((perm_byNumber others).trans hperm) (pairwise_byNumber hothers)]
  · intro n hall index
    have hplaces := map_byNumber_eq hall
    have hlength : (byNumber sources).length = n := by
      have := congrArg List.length hplaces
      rwa [List.length_map, List.length_map, List.length_range] at this
    constructor
    · rintro ⟨hzero, hlt⟩
      obtain ⟨i, rfl⟩ := Int.eq_ofNat_of_zero_le hzero
      have hi : i < (byNumber sources).length := by omega
      obtain ⟨⟨path, number⟩, hentry⟩ : ∃ entry, (byNumber sources)[i]? = some entry :=
        ⟨_, List.getElem?_eq_getElem hi⟩
      have hnumber : number = (i : Int) := by
        have hplace := congrArg (·[i]?) hplaces
        simp only [List.getElem?_map, hentry, List.getElem?_range (hlength ▸ hi),
          Option.map_some, Option.some.injEq] at hplace
        exact hplace
      subst hnumber
      refine ⟨path, (perm_byNumber sources).mem_iff.1 (List.mem_of_getElem? hentry),
        fileIn_eq_ok ?_⟩
      rw [List.getElem?_map, hentry]
      rfl
    · intro hindex
      exact fileIn_eq_failWith (by rwa [List.length_map, hlength])

end

/-- Three sources of which the last one comes first. -/
def shuffledSources : Json :=
  .obj [("sources", .obj [("c.sol", .obj [("id", .int 2)]), ("a.sol", .obj [("id", .int 0)]),
    ("b.sol", .obj [("id", .int 1)])])]

/-- The sources come in the order of their numbers; one number names a source, and another one does
not. -/
theorem shuffledSources_named :
    sourceList shuffledSources = .ok ["a.sol", "b.sol", "c.sol"] ∧
      ∃ sorted : List (String × Int), sourceList shuffledSources = .ok (sorted.map (·.1)) ∧
        fileIn (.int 1) (.texts (sorted.map (·.1))) .null = .ok (.str "b.sol") ∧
        fileIn (.int 3) (.texts (sorted.map (·.1))) .null =
          failWith ⟨.int 3, (sorted.map (·.1)).map .str⟩ := by
  have hentry (path : String) (number : Int) :
      (path, Json.obj [("id", .int number)]).1 = (path, number).1 ∧ ∃ own,
        (path, Json.obj [("id", .int number)]).2 = .obj own ∧
          (Keyed.lookup? "id" own).getD (.int 0) = .int (path, number).2 :=
    ⟨rfl, _, rfl, rfl⟩
  have hnumbers : Numbers shuffledSources [("c.sol", 2), ("a.sol", 0), ("b.sol", 1)] :=
    ⟨_, rfl, .cons (hentry _ _) (.cons (hentry _ _) (.cons (hentry _ _) .nil))⟩
  refine ⟨?_, ?_⟩
  · have hsorted : [("a.sol", 0), ("b.sol", 1), ("c.sol", 2)] =
        byNumber [("c.sol", 2), ("a.sol", 0), ("b.sol", 1)] := eq_byNumber (by decide) (by decide)
    rw [hnumbers.sourceList_eq, ← hsorted]
    rfl
  obtain ⟨sorted, hlist, -, -, -, -, hnamed⟩ :=
    sourceList_byNumber hnumbers (by decide) (by decide)
  refine ⟨sorted, hlist, ?_, (hnamed 3 (by decide) 3).2 (by decide)⟩
  obtain ⟨path, hmem, hpath⟩ := (hnamed 3 (by decide) 1).1 (by decide)
  obtain rfl : path = "b.sol" := by simpa using hmem
  exact hpath

end ContractAudit
