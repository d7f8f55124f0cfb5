/-
  What paths lead to in a tree of files.

  * `FileTree.route` is what a path leads through from the root, and `FileTree.place` the place that
    it names by the text alone.
  * `follow_settle`: a path that leads to a file leads to the file at its place, as every `..` on
    the way undoes the directory before it.  Hence paths of one place are read alike
    (`read_eq_of_place`), and the normal form of a path is read like it (`read_normal`).
  * `FileTree.texts` are the texts of all files, which are what can be read (`mem_texts_of_read`).
-/
import ContractAudit.Path.Tree
import ContractAudit.Proofs.Path.Settled

namespace ContractAudit.FileTree

open ContractAudit.Path

section
variable {t : FileTree} {place ps : List String} {bytes : List UInt8}

/-! ## Following components -/

theorem mem_entries_of_entryAt? (h : t.entryAt? place = some (.file bytes)) :
    (place, .file bytes) ∈ t.entries := by
  unfold entryAt? at h
  split at h
  · next e he =>
    have hplace : e.1 = place := by simpa using List.find?_some he
    obtain rfl := hplace
    have hfile : e.2 = .file bytes := Option.some.inj h
    rw [← hfile]
    exact List.mem_of_find?_eq_some he
  · split at h <;> cases h

/-- A path that leads to a file leads to a directory first, and then names the file. -/
theorem exists_concat_of_follow (h : t.follow place ps = .ok (.file bytes)) :
    ∃ qs c, ps = qs ++ [c] ∧ c ≠ ".." ∧ t.follow place qs = .ok .directory := by
  fun_induction t.follow place ps with
  | case1 => cases h
  | case2 place rest ih =>
    obtain ⟨qs, c, rfl, hc, hqs⟩ := ih h
    exact ⟨".." :: qs, c, rfl, hc, by rw [follow, if_pos rfl, hqs]⟩
  | case3 => cases h
  | case4 => cases h
  | case5 place c rest hc hsize hat ih =>
    obtain ⟨qs, d, rfl, hd, hqs⟩ := ih h
    exact ⟨c :: qs, d, rfl, hd, by rw [follow, if_neg hc, if_neg hsize, hat]; exact hqs⟩
  | case6 place c rest hc hsize bytes' hat hrest =>
    obtain rfl := List.isEmpty_iff.1 hrest
    exact ⟨[], c, rfl, hc, by rw [follow]⟩
  | case7 => cases h

/-- Whatever lies above a place can be followed step by step. -/
def Open (t : FileTree) (place : List String) : Prop :=
  ∀ above, above <+: place → ∀ ps, t.follow [] (above ++ ps) = t.follow above ps

theorem Open.nil (t : FileTree) : t.Open [] := by
  intro above habove ps
  rw [List.prefix_nil.1 habove, List.nil_append]

theorem Open.dropLast (h : t.Open place) : t.Open place.dropLast :=
  fun above habove => h above (habove.trans (List.dropLast_prefix place))

theorem Open.concat {c : String} (h : t.Open place)
    (hc : ∀ ps, t.follow place (c :: ps) = t.follow (place ++ [c]) ps) :
    t.Open (place ++ [c]) := by
  intro above habove ps
  rcases List.prefix_concat_iff.1 habove with rfl | habove
  · rw [List.append_assoc, List.singleton_append, h place List.prefix_rfl, hc]
  · exact h above habove ps

/-- **A file is found where its path leads once it is settled.** The `..` components of a path that
leads to a file each undo the directory before them. -/
theorem follow_settle (h : t.follow place ps = .ok (.file bytes)) (hopen : t.Open place)
    (hplace : ".." ∉ place) :
    t.follow [] (settle true place.reverse ps) = .ok (.file bytes) ∧
      t.entryAt? (settle true place.reverse ps) = some (.file bytes) := by
  fun_induction t.follow place ps with
  | case1 => cases h
  | case2 place rest ih =>
    have hmem : ".." ∉ place.dropLast := fun hm => hplace ((List.dropLast_sublist _).subset hm)
    have := ih h hopen.dropLast hmem
    rcases List.eq_nil_or_concat place with rfl | ⟨dir, d, rfl⟩
    · simpa [settle_up_nil] using this
    · have hd : d ≠ ".." := fun e => hplace (by simp [e])
      simpa [settle_up_of_ne _ _ hd] using this
  | case3 => cases h
  | case4 => cases h
  | case5 place c rest hc hsize hat ih =>
    have hstep (ps : List String) : t.follow place (c :: ps) = t.follow (place ++ [c]) ps := by
      rw [follow, if_neg hc, if_neg hsize, hat]
    have := ih h (hopen.concat hstep) (by simp [hplace, Ne.symm hc])
    rw [settle_of_ne _ _ hc]
    simpa using this
  | case6 place c rest hc hsize bytes' hat hrest =>
    obtain rfl := List.isEmpty_iff.1 hrest
    obtain rfl : bytes' = bytes := by simpa using h
    have hsettle : settle true place.reverse [c] = place ++ [c] := by simp [settle, hc]
    rw [hsettle]
    refine ⟨?_, hat⟩
    rw [hopen place List.prefix_rfl, follow, if_neg hc, if_neg hsize, hat]
    rfl
  | case7 => cases h

end

/-! ## Reading -/

/-- The text of a file, if its bytes are one. -/
def textOf? (bytes : List UInt8) : Option String :=
  (Text.Utf8.decode? bytes).map fun s => String.ofList (Text.unifyBreaks s.toList)

/-- The texts of all files. -/
def texts (t : FileTree) : List String :=
  t.entries.filterMap fun
    | (_, .file bytes) => textOf? bytes
    | (_, .directory) => none

/-- What a path leads through from the root. -/
def route (t : FileTree) (path : String) : List String :=
  if isAbsolute path then parts path else parts t.directory ++ parts path

/-- The place that a path names. -/
def place (t : FileTree) (path : String) : List String :=
  settle true [] (t.route path)

section
variable {t : FileTree} {path text : String}

theorem route_under {dir : String} (h : ¬ isAbsolute path) :
    t.route (under dir path) = t.route dir ++ parts path := by
  rw [route, route, isAbsolute_congr (root_under h), parts_under h]
  split
  · rfl
  · rw [List.append_assoc]

theorem route_parent (h : parts path ≠ []) : t.route (parent path) = (t.route path).dropLast := by
  rw [route, route, isAbsolute_congr (root_parent path), parts_parent]
  split
  · rfl
  · rw [List.dropLast_append_of_ne_nil h]

/-- The place of an absolute path is what its normal form consists of. -/
theorem place_of_isAbsolute (h : isAbsolute path) : t.place path = parts (normal path) := by
  rw [place, route, if_pos h, parts_normal, h]

theorem find_eq_ok {entry : FileEntry} :
    t.find path = .ok entry ↔
      path.utf8ByteSize < pathBound ∧ t.follow [] (t.route path) = .ok entry := by
  rw [find, route]
  by_cases hsize : pathBound ≤ path.utf8ByteSize
  · simp [hsize, Nat.not_lt.2 hsize]
  · rw [if_neg hsize]
    split <;> simp [Nat.lt_of_not_le hsize]

/-- **A path is read if it is short enough and leads to a file that is a text.** -/
theorem read_eq_ok :
    t.read path = .ok text ↔
      hasNull path = false ∧ path.utf8ByteSize < pathBound ∧
        ∃ bytes, t.follow [] (t.route path) = .ok (.file bytes) ∧ textOf? bytes = some text := by
  rw [read]
  by_cases hnull : hasNull path = true
  · simp [hnull]
  · rw [if_neg hnull]
    cases hfind : t.find path with
    | error e =>
      have hne (bytes : List UInt8) : ¬ (path.utf8ByteSize < pathBound ∧
          t.follow [] (t.route path) = .ok (.file bytes)) := by
        rw [← find_eq_ok, hfind]
        nofun
      constructor
      · nofun
      · rintro ⟨-, hsize, bytes, hfollow, -⟩
        exact absurd ⟨hsize, hfollow⟩ (hne bytes)
    | ok entry =>
      obtain ⟨hsize, hfollow⟩ := find_eq_ok.1 hfind
      cases entry with
      | directory =>
        rw [hfollow]
        simp [failWith]
      | file bytes =>
        rw [hfollow]
        simp only [hnull, hsize, textOf?, true_and, Except.ok.injEq, FileEntry.file.injEq,
          exists_eq_left']
        cases Text.Utf8.decode? bytes <;> simp

theorem exists_entry_of_read (h : t.read path = .ok text) :
    ∃ bytes, t.entryAt? (t.place path) = some (.file bytes) ∧ textOf? bytes = some text := by
  obtain ⟨-, -, bytes, hfollow, htext⟩ := read_eq_ok.1 h
  exact ⟨bytes, (follow_settle hfollow (.nil t) nofun).2, htext⟩

/-- **Paths of one place that can be read have one text.** -/
theorem read_eq_of_place {path' text' : String} (h : t.read path = .ok text)
    (h' : t.read path' = .ok text') (hplace : t.place path = t.place path') : text = text' := by
  obtain ⟨bytes, hat, htext⟩ := exists_entry_of_read h
  obtain ⟨bytes', hat', htext'⟩ := exists_entry_of_read h'
  rw [hplace, hat'] at hat
  cases hat
  rw [htext'] at htext
  exact (Option.some.inj htext).symm

theorem mem_texts_of_read (h : t.read path = .ok text) : text ∈ t.texts := by
  obtain ⟨bytes, hat, htext⟩ := exists_entry_of_read h
  exact List.mem_filterMap.2 ⟨_, mem_entries_of_entryAt? hat, htext⟩

/-- A path that can be read ends in a component that names the file; its directory cannot be
read. -/
theorem exists_concat_of_read (h : t.read path = .ok text) :
    ∃ qs c, t.route path = qs ++ [c] ∧ c ≠ ".." ∧ t.follow [] qs = .ok .directory := by
  obtain ⟨-, -, bytes, hfollow, -⟩ := read_eq_ok.1 h
  exact exists_concat_of_follow hfollow

/-- **The normal form of an absolute path is read like it.** -/
theorem read_normal (hpath : isAbsolute path) (h : t.read path = .ok text) :
    t.read (normal path) = .ok text := by
  obtain ⟨hnull, hsize, bytes, hfollow, htext⟩ := read_eq_ok.1 h
  have hsub := normal_sublist hpath
  have habsolute : isAbsolute (normal path) = true := by
    rw [isAbsolute_congr (root_normal path), hpath]
  refine read_eq_ok.2 ⟨?_, ?_, bytes, ?_, htext⟩
  · rw [hasNull, List.contains_eq_mem, decide_eq_false_iff_not] at hnull ⊢
    exact fun hmem => hnull (hsub.subset hmem)
  · have := String.utf8Len_le_of_sublist hsub
    rw [String.utf8Len_toList, String.utf8Len_toList] at this
    omega
  · rw [route, if_pos habsolute, parts_normal, hpath]
    rw [route, if_pos hpath] at hfollow
    exact (follow_settle hfollow (.nil t) nofun).1

end

end ContractAudit.FileTree
