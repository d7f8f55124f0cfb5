/-
  The file that an index names in a source list.

  * `knownPath_of_mem` and `knownPath_slash`: a known path is kept, and a slash in front of it is
    dropped unless it is known with the slash, too;
  * `toOption_fileAt`: the files of a source list are its paths without such slashes, so an index
    names one iff it is in the list (`toOption_fileAt_ne_none`).
-/
import ContractAudit.Finding.File

namespace ContractAudit

section
variable {known : List String} {path : String}

theorem knownPath_of_mem (h : path ∈ known) : knownPath known path = path := by
  rw [knownPath]
  split
  · rw [if_neg fun hk => hk.1 h]
  · rfl

theorem knownPath_slash (hpath : path ∈ known) (hslash : "/" ++ path ∉ known) :
    knownPath known ("/" ++ path) = path := by
  have hchars : ("/" ++ path).toList = '/' :: path.toList := by simp
  rw [knownPath, hchars]
  simp only [String.ofList_toList]
  rw [if_pos ⟨hslash, hpath⟩]

end

variable (index : Int) (files known : List String)

theorem toOption_fileAt : (fileAt index files known).toOption =
    if index < 0 then none else (files.map (knownPath known))[index.toNat]? := by
  rw [fileAt, List.getElem?_map]
  split
  · rfl
  · cases files[index.toNat]? <;> rfl

/-- A file is found iff its index is in the list. -/
theorem toOption_fileAt_ne_none :
    (fileAt index files known).toOption ≠ none ↔ 0 ≤ index ∧ index < files.length := by
  rw [toOption_fileAt]
  by_cases hneg : index < 0
  · rw [if_pos hneg]
    exact iff_of_false (· rfl) (by omega)
  · rw [if_neg hneg, ne_eq, List.getElem?_eq_none_iff, List.length_map]
    omega

end ContractAudit
