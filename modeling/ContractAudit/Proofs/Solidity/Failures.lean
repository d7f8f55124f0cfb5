/-
  How the search for the sources of a file fails.

  * `Meets t base seen pending u`: a search that knows the names `seen` comes to the new unit `u`,
    after it has read the new units before it.
  * `Obstructed t base u e`: the failure `e` of a unit that cannot be read, or whose imports cannot
    be looked for (`obstructed_iff`).  It ends the search that comes to the unit
    (`Meets.gather_eq`), and no search ends otherwise (`exists_meets_of_error`).
  * `sourcesOf_fails`: a search fails iff it comes to an obstructed unit.  It returns or ends with a
    compile error iff every unit that it comes to is `Legible`: its path has no null character, its
    file, if there is one, is a text, and the candidates for its imports are not too long.
    Otherwise there is no compile error (`broken_text_is_no_compile_error`).
-/
import ContractAudit.Proofs.Solidity.Termination

namespace ContractAudit

/-! ## Paths that are not looked up -/

namespace FileTree

/-- The file system refuses to look a path up. -/
def TooLong (t : FileTree) (path : String) : Prop :=
  Path.hasNull path = false ∧ t.find path = .error .nameTooLong

theorem isFile_eq_error_iff {t : FileTree} {path : String} {d : Defect} :
    t.isFile path = .error d ↔ t.TooLong path ∧ d = .unsearchable := by
  rw [isFile, TooLong]
  cases Path.hasNull path with
  | true => simp
  | false => rcases t.find path with (_ | _ | _ | _) | (_ | _) <;> simp [eq_comm]

end FileTree

namespace Solidity

/-! ## Units that fail -/

section
variable (t : FileTree) (base : String)

/-- An import that is not relative, with a candidate for its file that is too long a name: the file
below the base directory, or, if there is none, the one in a package there. -/
def Unlocatable (p : String) : Prop :=
  ¬ p.startsWith "." ∧ (t.TooLong (Path.under base p) ∨ t.isFile (Path.under base p) = .ok false ∧
    t.TooLong (Path.under (Path.under base packageFolder) p))

/-- How a unit fails: its file cannot be opened, is no text, or has a path that is none; or one of
its imports cannot be looked for. -/
inductive Obstructed (u : SourceUnit) : Fault CompileError → Prop
  | unopened {reason : FileError} : Path.hasNull u.file = false → t.find u.file = .error reason →
      Obstructed u (.error (.unreadable u.file reason))
  | directory : Path.hasNull u.file = false → t.find u.file = .ok .directory →
      Obstructed u (.error (.unreadable u.file .isDirectory))
  | null : Path.hasNull u.file = true → Obstructed u (.defect .outOfDomain)
  | undecodable {bytes : List UInt8} : Path.hasNull u.file = false →
      t.find u.file = .ok (.file bytes) → Text.Utf8.decode? bytes = none →
      Obstructed u (.defect .undecodable)
  | unlocatable {text p : String} : t.read u.file = .ok text → p ∈ importPaths text →
      Unlocatable t base p → Obstructed u (.defect .unsearchable)

/-- A unit that can only fail with a compile error. -/
structure Legible (u : SourceUnit) : Prop where
  noNull : Path.hasNull u.file = false
  isText : ∀ bytes, t.find u.file = .ok (.file bytes) → Text.Utf8.decode? bytes ≠ none
  locatable : ∀ text, t.read u.file = .ok text → ∀ p ∈ importPaths text, ¬ Unlocatable t base p

end

section
variable {t : FileTree} {base p text : String} {u v : SourceUnit} {d : Defect}
  {e : Fault CompileError}

/-- An import is not located iff a candidate for its file is too long a name. -/
theorem locate_eq_error_iff :
    locate t base u p = .error d ↔ Unlocatable t base p ∧ d = .unsearchable := by
  have htooLong (path : String) : t.TooLong path ↔ t.isFile path = .error .unsearchable := by
    simp [FileTree.isFile_eq_error_iff]
  rw [locate, Unlocatable, htooLong, htooLong]
  by_cases hdot : p.startsWith "."
  · simp [hdot]
  rw [if_neg hdot]
  dsimp only
  cases hown : t.isFile (Path.under base p) with
  | error d' =>
    obtain ⟨-, rfl⟩ := FileTree.isFile_eq_error_iff.1 hown
    simp [hdot, eq_comm]
  | ok isOwn =>
    cases isOwn with
    | true => simp [pure, Except.pure]
    | false =>
      cases hpackaged : t.isFile (Path.under (Path.under base packageFolder) p) with
      | error d' =>
        obtain ⟨-, rfl⟩ := FileTree.isFile_eq_error_iff.1 hpackaged
        simp [hdot, eq_comm]
      | ok isPackaged => simp [pure, Except.pure]

theorem importedUnits_eq_error_iff :
    importedUnits t base u text = .error d ↔
      (∃ p ∈ importPaths text, Unlocatable t base p) ∧ d = .unsearchable := by
  constructor
  · intro h
    obtain ⟨p, hp, hlocate⟩ := exists_of_mapM_error h
    obtain ⟨hunlocatable, hd⟩ := locate_eq_error_iff.1 hlocate
    exact ⟨⟨p, hp, hunlocatable⟩, hd⟩
  · rintro ⟨⟨p, hp, hunlocatable⟩, rfl⟩
    have hlocate : locate t base u p = .error .unsearchable :=
      locate_eq_error_iff.2 ⟨hunlocatable, rfl⟩
    cases himports : importedUnits t base u text with
    | ok imports =>
      obtain ⟨v, hv, -⟩ := exists_of_mapM himports p hp
      cases hlocate.symm.trans hv
    | error d =>
      obtain ⟨p', -, hlocate'⟩ := exists_of_mapM_error himports
      rw [(locate_eq_error_iff.1 hlocate').2]

/-- **A unit is obstructed iff it cannot be read or its imports cannot be located.** -/
theorem obstructed_iff :
    Obstructed t base u e ↔ readUnit t u = .error e ∨
      ∃ text d, readUnit t u = .ok text ∧ importedUnits t base u text = .error d ∧
        e = .defect d := by
  constructor
  · rintro (⟨hnull, hfind⟩ | ⟨hnull, hfind⟩ | hnull | ⟨hnull, hfind, hbytes⟩ | ⟨hread, hp, hlocate⟩)
    · left; simp [readUnit, FileTree.read, hnull, hfind, failWith]
    · left; simp [readUnit, FileTree.read, hnull, hfind, failWith]
    · left; simp [readUnit, FileTree.read, hnull]
    · left; simp [readUnit, FileTree.read, hnull, hfind, hbytes]
    · right
      refine ⟨_, _, ?_, importedUnits_eq_error_iff.2 ⟨⟨_, hp, hlocate⟩, rfl⟩, rfl⟩
      rw [readUnit, hread]
  · rintro (hread | ⟨text, d, hread, himports, rfl⟩)
    · rw [readUnit, FileTree.read] at hread
      cases hnull : Path.hasNull u.file with
      | true =>
        simp only [hnull, if_true] at hread
        cases hread
        exact .null hnull
      | false =>
        simp only [hnull] at hread
        rcases hfind : t.find u.file with reason | (bytes | _)
        · simp only [hfind] at hread
          cases hread
          exact .unopened hnull hfind
        · simp only [hfind] at hread
          cases hbytes : Text.Utf8.decode? bytes with
          | none =>
            simp only [hbytes] at hread
            cases hread
            exact .undecodable hnull hfind hbytes
          | some s =>
            simp only [hbytes] at hread
            cases hread
        · simp only [hfind] at hread
          cases hread
          exact .directory hnull hfind
    · obtain ⟨⟨p, hp, hlocate⟩, rfl⟩ := importedUnits_eq_error_iff.1 himports
      exact .unlocatable (readUnit_eq_ok hread) hp hlocate

/-- **A unit is legible iff it fails with nothing but compile errors.** -/
theorem legible_iff : Legible t base u ↔ ∀ d, ¬ Obstructed t base u (.defect d) := by
  constructor
  · rintro ⟨hnull, htext, hlocate⟩ d
      (_ | _ | hnull' | ⟨-, hfind, hbytes⟩ | ⟨hread, hp, hunlocatable⟩)
    · cases hnull.symm.trans hnull'
    · exact htext _ hfind hbytes
    · exact hlocate _ hread _ hp hunlocatable
  · intro h
    have hnull : Path.hasNull u.file = false := by
      by_contra hnull
      exact h _ (.null (by simpa using hnull))
    exact ⟨hnull, fun _ hfind hbytes => h _ (.undecodable hnull hfind hbytes),
      fun _ hread _ hp hunlocatable => h _ (.unlocatable hread hp hunlocatable)⟩

end

/-! ## Searches that fail -/

/-- A search that knows the names `seen` and takes the pending units in order comes to the new unit
`u`, after it has read all new units before it. -/
inductive Meets (t : FileTree) (base : String) :
    (seen : List String) → (pending : List SourceUnit) → SourceUnit → Prop
  | here {seen u pending} : u.name ∉ seen → Meets t base seen (u :: pending) u
  | known {seen u pending v} : u.name ∈ seen → Meets t base seen pending v →
      Meets t base seen (u :: pending) v
  | next {seen u pending text imports v} : u.name ∉ seen → t.read u.file = .ok text →
      importedUnits t base u text = .ok imports →
      Meets t base (seen ++ [u.name]) (imports.reverse ++ pending) v →
      Meets t base seen (u :: pending) v

section
variable {t : FileTree} {base : String} {sources : Keyed String} {pending : List SourceUnit}
  {u : SourceUnit} {e : Fault CompileError}

/-- **A search that fails, but not for want of rounds, has come to an obstructed unit.** -/
theorem exists_meets_of_error {fuel : Nat}
    (h : gather (readUnit t) t base fuel sources pending = .error e)
    (he : e ≠ .defect .endless) :
    ∃ u, Meets t base (Keyed.keys sources) pending u ∧ Obstructed t base u e := by
  induction fuel, sources, pending using gather.induct with
  | case1 =>
    rw [gather] at h
    cases h
  | case2 =>
    cases h
    exact absurd rfl he
  | case3 fuel sources u pending hseen ih =>
    rw [gather, if_pos hseen] at h
    obtain ⟨v, hmeets, hobstructed⟩ := ih h
    have hknown : u.name ∈ Keyed.keys sources := by simpa [Keyed.isSome_lookup?] using hseen
    exact ⟨v, .known hknown hmeets, hobstructed⟩
  | case4 fuel sources u pending hseen ih =>
    rw [gather, if_neg hseen] at h
    have hnew : u.name ∉ Keyed.keys sources := by simpa [Keyed.isSome_lookup?] using hseen
    cases hread : readUnit t u with
    | error e' =>
      rw [hread] at h
      cases h
      exact ⟨u, .here hnew, obstructed_iff.2 (.inl hread)⟩
    | ok text =>
      rw [hread, ok_bind] at h
      cases himports : importedUnits t base u text with
      | error d =>
        rw [himports] at h
        cases h
        exact ⟨u, .here hnew, obstructed_iff.2 (.inr ⟨text, d, hread, himports, rfl⟩)⟩
      | ok imports =>
        rw [himports] at h
        obtain ⟨v, hmeets, hobstructed⟩ := ih text imports h
        rw [keys_concat] at hmeets
        exact ⟨v, .next hnew (readUnit_eq_ok hread) himports hmeets, hobstructed⟩

/-- **A search that comes to an obstructed unit fails like it**, if it has rounds enough. -/
theorem Meets.gather_eq {seen : List String} (h : Meets t base seen pending u)
    (hobstructed : Obstructed t base u e) (hseen : Keyed.keys sources = seen) (fuel : Nat) :
    gather (readUnit t) t base fuel sources pending = .error e ∨
      gather (readUnit t) t base fuel sources pending = .error (.defect .endless) := by
  induction h generalizing sources fuel with
  | @here seen u pending hnew =>
    cases fuel with
    | zero => exact .inr rfl
    | succ fuel =>
      left
      rw [gather, if_neg (by simpa [Keyed.isSome_lookup?, hseen] using hnew)]
      rcases obstructed_iff.1 hobstructed with hread | ⟨text, d, hread, himports, rfl⟩
      · rw [hread]
        rfl
      · simp only [hread, ok_bind, himports]
        rfl
  | @known seen u pending v hknown _ ih =>
    cases fuel with
    | zero => exact .inr rfl
    | succ fuel =>
      rw [gather, if_pos (by simpa [Keyed.isSome_lookup?, hseen] using hknown)]
      exact ih hobstructed hseen fuel
  | @next seen u pending text imports v hnew hread himports _ ih =>
    cases fuel with
    | zero => exact .inr rfl
    | succ fuel =>
      have hunit : readUnit t u = .ok text := by rw [readUnit, hread]
      rw [gather, if_neg (by simpa [Keyed.isSome_lookup?, hseen] using hnew), hunit]
      simp only [ok_bind, himports]
      exact ih hobstructed (by rw [keys_concat, hseen]) fuel

/-- **The search from a main file fails iff it comes to an obstructed unit**, as it has rounds
enough. -/
theorem search_eq_error_iff {cwd path : String} :
    gather (readUnit t) t base (searchBound t) [] [mainUnit cwd path] = .error e ↔
      ∃ u, Meets t base [] [mainUnit cwd path] u ∧ Obstructed t base u e := by
  have hrounds : gather (readUnit t) t base (searchBound t) [] [mainUnit cwd path] ≠
      .error (.defect .endless) := by
    obtain ⟨answer, opened, hends⟩ := exists_ends_searchBound .lastFirst t cwd path base
    have hanswer := congrArg Prod.fst (hends.run_eq _ (Nat.le_refl _) [])
    rw [fst_run_recorded, gatherIn_lastFirst] at hanswer
    rw [hanswer]
    exact hends.ne_endless
  constructor
  · intro h
    exact exists_meets_of_error h fun he => hrounds (by rw [h, he])
  · rintro ⟨u, hmeets, hobstructed⟩
    exact (hmeets.gather_eq hobstructed rfl _).resolve_right hrounds

theorem sourcesOf_eq_error_iff {cwd path : String} {base : Option String} :
    sourcesOf t cwd path base = .error e ↔
      Path.hasNull path = true ∧ e = .defect .outOfDomain ∨ Path.hasNull path = false ∧
        ∃ u, Meets { t with directory := cwd } (base.getD (Path.parent (mainUnit cwd path).name)) []
            [mainUnit cwd path] u ∧
          Obstructed { t with directory := cwd } (base.getD (Path.parent (mainUnit cwd path).name))
            u e := by
  rw [sourcesOf, sourcesBy, ← search_eq_error_iff]
  cases hnull : Path.hasNull path with
  | true => simp [eq_comm, throw, throwThe, MonadExceptOf.throw]
  | false => simp [mainUnit]

end

/-- **The search for the sources of a file fails iff it comes to a unit that is obstructed**, or the
path of the file has a null character, and then it fails like it. It returns or ends with a compile
error iff all units that it comes to are legible. -/
theorem sourcesOf_fails (t : FileTree) (cwd path : String) (base : Option String) :
    let tree := { t with directory := cwd }
    let main := mainUnit cwd path
    let dir := base.getD (Path.parent main.name)
    (∀ e, sourcesOf t cwd path base = .error e ↔
      Path.hasNull path = true ∧ e = .defect .outOfDomain ∨
        Path.hasNull path = false ∧ ∃ u, Meets tree dir [] [main] u ∧ Obstructed tree dir u e) ∧
    (((∃ sources, sourcesOf t cwd path base = .ok sources) ∨
        ∃ e, sourcesOf t cwd path base = .error (.error e)) ↔
      Path.hasNull path = false ∧ ∀ u, Meets tree dir [] [main] u → Legible tree dir u) := by
  intro tree main dir
  refine ⟨fun e => sourcesOf_eq_error_iff, ?_⟩
  have hdefect : ((∃ sources, sourcesOf t cwd path base = .ok sources) ∨
      ∃ e, sourcesOf t cwd path base = .error (.error e)) ↔
      ∀ d, sourcesOf t cwd path base ≠ .error (.defect d) := by
    rcases sourcesOf t cwd path base with (e | d) | sources <;> simp
  rw [hdefect]
  constructor
  · intro h
    have hnull : Path.hasNull path = false := by
      by_contra hnull
      exact h _ (sourcesOf_eq_error_iff.2 (.inl ⟨by simpa using hnull, rfl⟩))
    refine ⟨hnull, fun u hu => legible_iff.2 fun d hd => ?_⟩
    exact h d (sourcesOf_eq_error_iff.2 (.inr ⟨hnull, u, hu, hd⟩))
  · rintro ⟨hnull, hlegible⟩ d hd
    rcases sourcesOf_eq_error_iff.1 hd with ⟨hnull', -⟩ | ⟨-, u, hu, hobstructed⟩
    · cases hnull.symm.trans hnull'
    · exact legible_iff.1 (hlegible u hu) d hobstructed

/-- **Bytes that are no text end a search without a compile error**, as does a null character in a
directive. -/
theorem broken_text_is_no_compile_error :
    let tree (bytes : List UInt8) : FileTree :=
      { entries := [(["w", "main.sol"], .file bytes)], directory := "/w" }
    sourcesOf (tree [0xFF]) "/w" "main.sol" none = .error (.defect .undecodable) ∧
      sourcesOf (tree (Text.Utf8.encode "import './\x00';")) "/w" "main.sol" none =
        .error (.defect .outOfDomain) := by
  intro tree
  constructor
  · have hfind : (tree [0xFF]).find (mainUnit "/w" "main.sol").file = .ok (.file [0xFF]) := by
      decide +kernel
    refine sourcesOf_eq_error_iff.2 (.inr ⟨by decide +kernel, _, .here List.not_mem_nil, ?_⟩)
    exact .undecodable (by decide +kernel) hfind (by decide +kernel)
  · have hread : (tree (Text.Utf8.encode "import './\x00';")).read (mainUnit "/w" "main.sol").file =
        .ok "import './\x00';" := toOption_eq_some_iff.1 (by decide +kernel)
    have himports : importedUnits (tree (Text.Utf8.encode "import './\x00';"))
        (Path.parent (mainUnit "/w" "main.sol").name) (mainUnit "/w" "main.sol")
        "import './\x00';" = .ok [⟨"/w/\x00", "/w/\x00"⟩] :=
      toOption_eq_some_iff.1 (by decide +kernel)
    have hnew : "/w/\x00" ∉ [(mainUnit "/w" "main.sol").name] := by decide +kernel
    refine sourcesOf_eq_error_iff.2 (.inr ⟨by decide +kernel, ⟨"/w/\x00", "/w/\x00"⟩, ?_, ?_⟩)
    · exact .next List.not_mem_nil hread himports (.here hnew)
    · exact .null (by decide +kernel)

end Solidity

end ContractAudit
