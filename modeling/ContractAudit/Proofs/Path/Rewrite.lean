/-
  Trees in which a file is written anew.

  * `FileTree.write` puts other bytes into the file at a place (`entryAt?_write`).
  * `SameShape`: trees with files and directories at the same places.  A path leads to a file in
    one iff it does in the other (`SameShape.find_eq`, `SameShape.isFile_eq`).
  * `SameShape.read`: what is read in the other tree is the text of its file at the same place.
-/
import ContractAudit.Proofs.Path.Follow

namespace ContractAudit

/-- An entry without the bytes of a file. -/
def FileEntry.outline : FileEntry → FileEntry
  | .file _ => .file []
  | .directory => .directory

theorem FileEntry.outline_eq_directory {e : FileEntry} (h : e.outline = .directory) :
    e = .directory := by
  cases e with
  | file => cases h
  | directory => rfl

theorem FileEntry.outline_eq_file {e : FileEntry} {bytes : List UInt8}
    (h : e.outline = .file bytes) : ∃ bytes', e = .file bytes' := by
  cases e with
  | file bytes' => exact ⟨bytes', rfl⟩
  | directory => cases h

namespace FileTree

/-- The tree with the given bytes in the file at a place. -/
def write (t : FileTree) (place : List String) (bytes : List UInt8) : FileTree :=
  { t with entries := t.entries.map fun e => if e.1 = place then (e.1, .file bytes) else e }

/-- Files and directories are at the same places in both trees. -/
structure SameShape (t t' : FileTree) : Prop where
  directory_eq : t'.directory = t.directory
  outline_eq : ∀ place, (t'.entryAt? place).map FileEntry.outline =
    (t.entryAt? place).map FileEntry.outline

section
variable {t t' : FileTree} {place : List String} {path text : String} {bytes old : List UInt8}

theorem SameShape.symm (h : SameShape t t') : SameShape t' t :=
  ⟨h.directory_eq.symm, fun place => (h.outline_eq place).symm⟩

theorem SameShape.follow_eq (h : SameShape t t') (place ps : List String) :
    (t'.follow place ps).map FileEntry.outline = (t.follow place ps).map FileEntry.outline := by
  induction ps generalizing place with
  | nil => rfl
  | cons c ps ih =>
    rw [follow, follow]
    split
    · exact ih _
    · split
      · rfl
      · have hat := h.outline_eq (place ++ [c])
        cases hentry : t.entryAt? (place ++ [c]) with
        | none =>
          rw [hentry, Option.map_none, Option.map_eq_none_iff] at hat
          rw [hat]
        | some e =>
          rw [hentry, Option.map_some, Option.map_eq_some_iff] at hat
          obtain ⟨e', hentry', he⟩ := hat
          rw [hentry']
          cases e with
          | directory =>
            rw [FileEntry.outline_eq_directory he]
            exact ih _
          | file bytes =>
            obtain ⟨bytes', rfl⟩ := FileEntry.outline_eq_file he
            simp only
            split <;> rfl

theorem SameShape.route_eq (h : SameShape t t') : t'.route path = t.route path := by
  rw [route, route, h.directory_eq]

theorem SameShape.place_eq (h : SameShape t t') : t'.place path = t.place path := by
  rw [place, place, h.route_eq]

theorem SameShape.find_eq (h : SameShape t t') (path : String) :
    (t'.find path).map FileEntry.outline = (t.find path).map FileEntry.outline := by
  rw [find, find, h.directory_eq]
  split
  · rfl
  · split <;> exact h.follow_eq ..

theorem SameShape.isFile_eq (h : SameShape t t') : t'.isFile path = t.isFile path := by
  have hfind := h.find_eq path
  rw [isFile, isFile]
  split
  · rfl
  · cases ht : t.find path with
    | error e =>
      cases ht' : t'.find path with
      | error e' =>
        rw [ht, ht'] at hfind
        cases hfind
        rfl
      | ok entry' =>
        rw [ht, ht'] at hfind
        cases hfind
    | ok entry =>
      cases ht' : t'.find path with
      | error e' =>
        rw [ht, ht'] at hfind
        cases hfind
      | ok entry' =>
        rw [ht, ht'] at hfind
        have houtline : entry'.outline = entry.outline := Except.ok.inj hfind
        cases entry with
        | directory => rw [FileEntry.outline_eq_directory houtline]
        | file bytes =>
          obtain ⟨bytes', rfl⟩ := FileEntry.outline_eq_file houtline
          rfl

/-- **What is read is the text of the file at the place of the path.** -/
theorem SameShape.read (h : SameShape t t') (hread : t.read path = .ok text) {text' : String}
    (hat : t'.entryAt? (t.place path) = some (.file bytes)) (htext : textOf? bytes = some text') :
    t'.read path = .ok text' := by
  obtain ⟨hnull, hsize, old, hfollow, -⟩ := read_eq_ok.1 hread
  have hfollow' := h.follow_eq [] (t.route path)
  rw [hfollow] at hfollow'
  cases ht' : t'.follow [] (t.route path) with
  | error e =>
    rw [ht'] at hfollow'
    cases hfollow'
  | ok entry =>
    rw [ht'] at hfollow'
    obtain ⟨bytes', rfl⟩ := FileEntry.outline_eq_file (Except.ok.inj hfollow')
    have hat' := (follow_settle ht' (.nil t') nofun).2
    rw [List.reverse_nil, ← FileTree.place, hat] at hat'
    cases hat'
    exact read_eq_ok.2 ⟨hnull, hsize, bytes, h.route_eq ▸ ht', htext⟩

/-- What lies at a place in the tree with other bytes in a file. -/
theorem entryAt?_write (h : t.entryAt? place = some (.file old)) (bytes : List UInt8)
    (p : List String) :
    (t.write place bytes).entryAt? p = if p = place then some (.file bytes) else t.entryAt? p := by
  have hkey (e : List String × FileEntry) :
      (if e.1 = place then (e.1, FileEntry.file bytes) else e).1 = e.1 := by
    split <;> rfl
  have hfind : (t.write place bytes).entries.find? (fun e => e.1 == p) =
      (t.entries.find? fun e => e.1 == p).map fun e =>
        if e.1 = place then (e.1, .file bytes) else e := by
    rw [write, List.find?_map]
    simp only [Function.comp_def, hkey]
  have hany : (t.write place bytes).entries.any (fun e => p.isPrefixOf e.1) =
      t.entries.any fun e => p.isPrefixOf e.1 := by
    rw [write, List.any_map]
    simp only [Function.comp_def, hkey]
  unfold entryAt? at h ⊢
  rw [hfind, hany]
  by_cases hp : p = place
  · subst hp
    cases he : t.entries.find? fun e => e.1 == p with
    | none =>
      rw [he] at h
      simp only at h
      split at h <;> cases h
    | some e =>
      have hplace : e.1 = p := by simpa using List.find?_some he
      simp [hplace]
  · rw [if_neg hp]
    cases he : t.entries.find? fun e => e.1 == p with
    | none => rfl
    | some e =>
      have hplace : e.1 = p := by simpa using List.find?_some he
      simp [hplace, hp]

theorem sameShape_write (h : t.entryAt? place = some (.file old)) (bytes : List UInt8) :
    SameShape t (t.write place bytes) where
  directory_eq := rfl
  outline_eq p := by
    rw [entryAt?_write h]
    split
    · next hp =>
      rw [hp, h]
      rfl
    · rfl

end

end FileTree

end ContractAudit
