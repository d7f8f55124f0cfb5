/-
  How many names the units of a search can have.

  * `length_importPaths_le`, `length_flatMap_importPaths_le`: there are no more directives than
    bytes in all files, and so no more names of seeds than `seedNames` has.
  * `exists_derivedName`: the name of a relative import that can be read is made of the name of the
    importing unit, of the number of components that lead up, and of the last components of the
    place where the file lies.
  * `Stems.name_mem`: what stems from a seed and can be read has one of the `names`, of which there
    are no more than `nameBound` says (`length_names_le`).
-/
import Mathlib.Data.List.DropRight
import ContractAudit.Proofs.Solidity.Naming

namespace ContractAudit

/-! ## Sizes of texts -/

theorem Text.length_unifyBreaks_le (s : List Char) : (unifyBreaks s).length ≤ s.length := by
  fun_induction unifyBreaks s with
  | case1 => exact Nat.le_refl _
  | case2 rest ih =>
    simp only [List.length_cons]
    omega
  | case3 c rest _ ih =>
    simp only [List.length_cons]
    omega

theorem Text.Utf8.length_sequences_le (bytes : List UInt8) :
    (sequences bytes).length ≤ bytes.length := by
  fun_induction sequences bytes with
  | case1 => exact Nat.le_refl _
  | case2 a rest ih =>
    simp only [List.length_cons, List.length_drop] at ih ⊢
    omega

theorem eq_map_of_mapM_id {α : Type} {l : List (Option α)} {xs : List α}
    (h : l.mapM id = some xs) : l = xs.map some := by
  induction l generalizing xs with
  | nil =>
    cases h
    rfl
  | cons a l ih =>
    rw [List.mapM_cons] at h
    simp only [id, Option.bind_eq_bind, Option.bind_eq_some_iff, Option.pure_def,
      Option.some.injEq] at h
    obtain ⟨x, rfl, xs', hxs, rfl⟩ := h
    rw [List.map_cons, ← ih hxs]

theorem FileTree.length_le_of_textOf? {bytes : List UInt8} {text : String}
    (h : textOf? bytes = some text) : text.toList.length ≤ bytes.length := by
  obtain ⟨s, hdecode, rfl⟩ := Option.map_eq_some_iff.1 h
  obtain ⟨cs, hcs, rfl⟩ := Option.map_eq_some_iff.1 hdecode
  have hbytes := Text.Utf8.length_sequences_le bytes
  rw [eq_map_of_mapM_id hcs, List.length_map] at hbytes
  rw [String.toList_ofList, String.toList_ofList]
  exact (Text.length_unifyBreaks_le cs).trans hbytes

namespace Solidity

open ContractAudit.Path

theorem length_pathsFrom_le (s : List Char) : (pathsFrom s).length ≤ s.length := by
  fun_induction pathsFrom s with
  | case1 s path rest hdirective ih =>
    have hrest := length_lt_of_directive? hdirective
    rw [List.length_cons]
    split
    · next hnext =>
      exact (Nat.succ_le_succ ((ih _ hnext).trans (length_lt_of_after? hnext).le)).trans hrest
    · exact Nat.succ_le_of_lt (Nat.zero_lt_of_lt hrest)
  | case2 s _ next hnext ih =>
    exact ih.trans (length_lt_of_after? hnext).le
  | case3 => exact Nat.zero_le _

theorem length_importPaths_le (text : String) : (importPaths text).length ≤ text.toList.length :=
  length_pathsFrom_le text.toList

/-- There are no more directives than bytes. -/
theorem length_flatMap_importPaths_le (t : FileTree) :
    (t.texts.flatMap importPaths).length ≤ t.weight := by
  rw [FileTree.texts, FileTree.weight]
  induction t.entries with
  | nil => exact Nat.le_refl _
  | cons e entries ih =>
    obtain ⟨place, entry⟩ := e
    cases entry with
    | directory => simpa [total] using ih
    | file bytes =>
      cases htext : FileTree.textOf? bytes with
      | none =>
        simp only [total, List.map_cons, List.filterMap_cons, htext]
        omega
      | some text =>
        have := length_importPaths_le text
        have := FileTree.length_le_of_textOf? htext
        simp only [total, List.map_cons, List.filterMap_cons, htext, List.flatMap_cons,
          List.length_append]
        omega

theorem length_importPaths_le_weight {t : FileTree} {text : String} (h : text ∈ t.texts) :
    (importPaths text).length ≤ t.weight := by
  refine Nat.le_trans ?_ (length_flatMap_importPaths_le t)
  rw [List.flatMap]
  exact (List.sublist_flatten_of_mem (List.mem_map_of_mem h)).length_le

/-! ## Names -/

/-- The names that seeds can have: that of the main unit, and what the directives say. -/
def seedNames (t : FileTree) (main : String) : List String :=
  main :: t.texts.flatMap importPaths

/-- The name of a relative import of the unit `seed`, which leads up some components and then to the
last `downs` components of the place of a file. -/
def derivedName (seed : String) (place : List String) (ups downs : Nat) : String :=
  normal (joined (directory seed) (ofParts "" (List.replicate ups ".." ++ place.rtake downs)))

/-- The names that units of a search can have that can be read. -/
def names (t : FileTree) (main : String) : List String :=
  (seedNames t main).flatMap fun seed =>
    seed :: t.entries.flatMap fun e =>
      (List.range (FileTree.pathBound + 1)).flatMap fun ups =>
        (List.range (FileTree.pathBound + 1)).map fun downs => derivedName seed e.1 ups downs

theorem length_seedNames_le (t : FileTree) (main : String) :
    (seedNames t main).length ≤ t.weight + 1 :=
  Nat.succ_le_succ (length_flatMap_importPaths_le t)

theorem length_flatMap_const {α β : Type} {l : List α} {f : α → List β} {n : Nat}
    (h : ∀ a ∈ l, (f a).length = n) : (l.flatMap f).length = l.length * n := by
  induction l with
  | nil => simp
  | cons a l ih =>
    obtain ⟨ha, hl⟩ := List.forall_mem_cons.1 h
    rw [List.flatMap_cons, List.length_append, ha, ih hl, List.length_cons, Nat.succ_mul,
      Nat.add_comm]

/-- **There are finitely many names.** -/
theorem length_names_le (t : FileTree) (main : String) : (names t main).length ≤ nameBound t := by
  have hnumbers (n : Nat) (f : Nat → Nat → String) :
      ((List.range n).flatMap fun i => (List.range n).map (f i)).length = n * n := by
    rw [length_flatMap_const fun i _ => List.length_map (f i), List.length_range]
  rw [names, length_flatMap_const fun seed _ => by
    rw [List.length_cons, length_flatMap_const fun e _ => hnumbers _ (derivedName seed e.1)]]
  exact Nat.mul_le_mul_right _ (length_seedNames_le t main)

section
variable {t : FileTree} {base p text : String} {main s u : SourceUnit}

/-- A relative path that can be read, seen from a directory, has fewer components than paths may
have bytes. -/
theorem length_parts_le_pathBound {dir : String} (hp : ¬ isAbsolute p)
    (h : t.read (under dir p) = .ok text) : (parts p).length ≤ FileTree.pathBound := by
  obtain ⟨-, hsize, -⟩ := FileTree.read_eq_ok.1 h
  have := length_parts_le (under dir p)
  rw [parts_under hp, List.length_append] at this
  omega

/-- **The name of a relative import that can be read** is made of the name of the importing unit, of
the number of components that lead up, and of the last components of the place of the file. -/
theorem exists_derivedName (hp : ¬ isAbsolute p) (h : t.read (s.relative p).file = .ok text) :
    ∃ e ∈ t.entries, ∃ ups ≤ FileTree.pathBound, ∃ downs ≤ FileTree.pathBound,
      (s.relative p).name = derivedName s.name e.1 ups downs := by
  obtain ⟨k, qs, hsettle, hqs, hle⟩ := settle_eq_replicate (parts p) 0 [] List.not_mem_nil
  simp only [List.reverse_nil, List.replicate_zero, List.append_nil, List.length_nil, zero_add]
    at hsettle hle
  have hbound := length_parts_le_pathBound hp h
  obtain ⟨bytes, hat, -⟩ := FileTree.exists_entry_of_read h
  -- what does not lead up is at the end of the place
  obtain ⟨above, habove⟩ : ∃ above, t.place (s.relative p).file = above ++ qs := by
    rw [FileTree.place, SourceUnit.relative, FileTree.route_under hp, settle_append,
      ← List.nil_append (parts p), ← List.reverse_nil,
      ← settle_settle true _ [] (parts p) (fun h => absurd h Bool.false_ne_true), hsettle,
      settle_append, settle_of_notMem hqs]
    exact ⟨_, rfl⟩
  refine ⟨_, FileTree.mem_entries_of_entryAt? hat, k, by omega, qs.length, by omega, ?_⟩
  have hnormal : normal p = ofParts "" (List.replicate k ".." ++ qs) := by
    rw [normal, root_eq_empty hp, Bool.eq_false_iff.2 hp, hsettle]
  rw [derivedName, habove, List.rtake_eq_reverse_take_reverse, SourceUnit.relative]
  simp [← hnormal, normal_joined_normal hp]

/-- **What stems from a seed and can be read has one of the names.** -/
theorem Stems.name_mem (h : Stems t base main u) (hread : t.read u.file = .ok text) :
    u.name ∈ names t main.name := by
  have hseed {s : SourceUnit} (hs : IsSeed t base main s) : s.name ∈ seedNames t main.name := by
    cases hs with
    | main => exact List.mem_cons_self
    | verbatim htext hp => exact List.mem_cons_of_mem _ (List.mem_flatMap.2 ⟨_, htext, hp⟩)
  cases h with
  | seed hs => exact List.mem_flatMap.2 ⟨_, hseed hs, List.mem_cons_self⟩
  | @relative s _ p hs _ hp =>
    obtain ⟨e, he, ups, hups, downs, hdowns, hname⟩ := exists_derivedName hp hread
    refine List.mem_flatMap.2 ⟨s.name, hseed hs, List.mem_cons_of_mem _ ?_⟩
    refine List.mem_flatMap.2 ⟨e, he, List.mem_flatMap.2 ⟨ups, ?_, ?_⟩⟩
    · exact List.mem_range.2 (Nat.lt_succ_of_le hups)
    · exact List.mem_map.2 ⟨downs, List.mem_range.2 (Nat.lt_succ_of_le hdowns), hname.symm⟩

end

end Solidity

end ContractAudit
