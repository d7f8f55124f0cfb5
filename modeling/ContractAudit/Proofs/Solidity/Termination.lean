/-
  Searches for imports come to an end.

  * `recorded` keeps the units that are asked for, also of a search that fails; it makes no
    difference to the answer (`fst_run_recorded`).
  * `Ends`: a search has an answer within some rounds, which more rounds do not change; there is a
    rule for each way in which a round goes on (`Ends.nil`, `Ends.known`, `Ends.next`,
    `Ends.failed`).
  * `Confined.exists_ends`: a search that stays among finitely many names ends, in any order.  Every
    round takes a unit from what is pending, and a name that becomes known pays for its imports.
  * `confined_stems`: the searches of the program stay among the names of `NameBound`.
  * `sourcesOf_ends`: they end, within `searchBound` rounds, and no name is asked for twice.
-/
import Mathlib.Data.List.Perm.Subperm
import ContractAudit.Proofs.Solidity.NameBound
import ContractAudit.Proofs.Solidity.Order

namespace ContractAudit.Solidity

/-! ## Records of searches -/

/-- Reading with a record of the units that were asked for, which a failure does not undo. -/
def recorded {ε : Type} (reads : SourceUnit → Except ε String) (u : SourceUnit) :
    ExceptT ε (StateM (List SourceUnit)) String := do
  modify (· ++ [u])
  ExceptT.mk (pure (reads u))

theorem run_recorded_bind {ε α : Type} (reads : SourceUnit → Except ε String) (u : SourceUnit)
    (f : String → ExceptT ε (StateM (List SourceUnit)) α) (log : List SourceUnit) :
    (recorded reads u >>= f).run.run log =
      match reads u with
      | .ok text => (f text).run.run (log ++ [u])
      | .error e => (.error e, log ++ [u]) := by
  have : (recorded reads u >>= f).run.run log =
      (ExceptT.bindCont f (reads u)).run (log ++ [u]) := rfl
  rw [this]
  cases reads u <;> rfl

/-- The record makes no difference to the answer. -/
theorem fst_run_recorded (order : Order) (reads : SourceUnit → Except (Fault CompileError) String)
    (t : FileTree) (base : String) (fuel : Nat) (sources : Keyed String)
    (pending log : List SourceUnit) :
    ((gatherIn order (recorded reads) t base fuel sources pending).run.run log).1 =
      gatherIn order reads t base fuel sources pending := by
  induction fuel generalizing sources pending log with
  | zero =>
    rw [gatherIn, gatherIn]
    cases order.arrange sources pending <;> rfl
  | succ fuel ih =>
    cases hnext : order.arrange sources pending with
    | nil =>
      rw [gatherIn_of_nil hnext, gatherIn_of_nil hnext]
      rfl
    | cons u rest =>
      rw [gatherIn_of_cons hnext, gatherIn_of_cons hnext]
      by_cases hseen : (Keyed.lookup? u.name sources).isSome
      · rw [if_pos hseen, if_pos hseen, ih]
      · rw [if_neg hseen, if_neg hseen, run_recorded_bind]
        cases reads u with
        | error e => rfl
        | ok text =>
          cases himports : importedUnits t base u text with
          | error d =>
            simp only [ok_bind, himports]
            rfl
          | ok imports => simpa only [ok_bind, himports] using ih ..

theorem readUnit_ne_endless {t : FileTree} {u : SourceUnit} {e : Fault CompileError}
    (h : readUnit t u = .error e) : e ≠ .defect .endless := by
  rintro rfl
  rw [readUnit] at h
  split at h
  · cases h
  · cases h
  · next d hread =>
    obtain rfl : d = .endless := by simpa using h
    rw [FileTree.read] at hread
    repeat' split at hread
    all_goals cases hread

/-- Only looking for a file fails to locate an import. -/
theorem exists_isFile_error {t : FileTree} {base p : String} {u : SourceUnit} {d : Defect}
    (h : locate t base u p = .error d) : ∃ path, t.isFile path = .error d := by
  rw [locate] at h
  split at h
  · cases h
  · simp only [bind, Except.bind] at h
    split at h
    · next hown =>
      cases h
      exact ⟨_, hown⟩
    · split at h
      · cases h
      · split at h
        · next hpackaged =>
          cases h
          exact ⟨_, hpackaged⟩
        · cases h

theorem importedUnits_ne_endless {t : FileTree} {base text : String} {u : SourceUnit} {d : Defect}
    (h : importedUnits t base u text = .error d) : d ≠ .endless := by
  rintro rfl
  obtain ⟨p, -, hlocate⟩ := exists_of_mapM_error h
  obtain ⟨path, hfile⟩ := exists_isFile_error hlocate
  rw [FileTree.isFile] at hfile
  repeat' split at hfile
  all_goals cases hfile

/-! ## Searches that end -/

/-- A search ends within some rounds, in whatever number above it that is allowed: its answer, and
the units that it asks for. -/
structure Ends (order : Order) (t : FileTree) (base : String) (names : List String) (rounds : Nat)
    (sources : Keyed String) (pending : List SourceUnit)
    (answer : Except (Fault CompileError) (Keyed String)) (opened : List SourceUnit) : Prop where
  ne_endless : answer ≠ .error (.defect .endless)
  run_eq : ∀ fuel ≥ rounds, ∀ log, (gatherIn order (recorded (readUnit t)) t base fuel sources
    pending).run.run log = (answer, log ++ opened)
  nodup : (Keyed.keys sources ++ opened.map SourceUnit.name).Nodup
  length_le : sources.length + opened.length ≤ names.length + 1

section
variable {order : Order} {t : FileTree} {base text : String} {names : List String} {rounds : Nat}
  {sources : Keyed String} {pending rest imports opened : List SourceUnit} {u : SourceUnit}
  {answer : Except (Fault CompileError) (Keyed String)}

theorem Ends.mono {rounds' : Nat} (hle : rounds ≤ rounds')
    (h : Ends order t base names rounds sources pending answer opened) :
    Ends order t base names rounds' sources pending answer opened :=
  { h with run_eq := fun fuel hfuel => h.run_eq fuel (Nat.le_trans hle hfuel) }

theorem Ends.nil (hnext : order.arrange sources pending = [])
    (hnodup : (Keyed.keys sources).Nodup) (hlength : sources.length ≤ names.length) :
    Ends order t base names 0 sources pending (.ok sources) [] where
  ne_endless := nofun
  run_eq fuel _ log := by
    rw [gatherIn_of_nil hnext, List.append_nil]
    rfl
  nodup := by simpa using hnodup
  length_le := Nat.le_succ_of_le hlength

theorem Ends.known (hnext : order.arrange sources pending = u :: rest)
    (hknown : (Keyed.lookup? u.name sources).isSome)
    (h : Ends order t base names rounds sources rest answer opened) :
    Ends order t base names (rounds + 1) sources pending answer opened where
  ne_endless := h.ne_endless
  run_eq fuel hfuel log := by
    obtain ⟨fuel, rfl⟩ := Nat.exists_eq_add_of_le' (Nat.le_of_add_left_le hfuel)
    rw [gatherIn_of_cons hnext, if_pos hknown, h.run_eq fuel (Nat.le_of_succ_le_succ hfuel)]
  nodup := h.nodup
  length_le := h.length_le

theorem Ends.next (hnext : order.arrange sources pending = u :: rest)
    (hnew : ¬ (Keyed.lookup? u.name sources).isSome) (hread : readUnit t u = .ok text)
    (himports : importedUnits t base u text = .ok imports)
    (h : Ends order t base names rounds (sources ++ [(u.name, text)]) (imports.reverse ++ rest)
      answer opened) :
    Ends order t base names (rounds + 1) sources pending answer (u :: opened) where
  ne_endless := h.ne_endless
  run_eq fuel hfuel log := by
    obtain ⟨fuel, rfl⟩ := Nat.exists_eq_add_of_le' (Nat.le_of_add_left_le hfuel)
    rw [gatherIn_of_cons hnext, if_neg hnew, run_recorded_bind, hread]
    simp only [himports]
    rw [h.run_eq fuel (Nat.le_of_succ_le_succ hfuel), List.append_assoc, List.singleton_append]
  nodup := by simpa [Keyed.keys] using h.nodup
  length_le := by
    have := h.length_le
    simp only [List.length_append, List.length_cons, List.length_nil] at this ⊢
    omega

/-- A search that fails on a unit has asked for it. -/
theorem Ends.failed {e : Fault CompileError} (hnext : order.arrange sources pending = u :: rest)
    (hnew : ¬ (Keyed.lookup? u.name sources).isSome) (hnodup : (Keyed.keys sources).Nodup)
    (hlength : sources.length ≤ names.length)
    (hfails : readUnit t u = .error e ∨
      ∃ text d, readUnit t u = .ok text ∧ importedUnits t base u text = .error d ∧ e = .defect d) :
    Ends order t base names 1 sources pending (.error e) [u] where
  ne_endless := by
    rcases hfails with hread | ⟨text, d, -, himports, rfl⟩
    · simpa using readUnit_ne_endless hread
    · simpa using importedUnits_ne_endless himports
  run_eq fuel hfuel log := by
    obtain ⟨fuel, rfl⟩ := Nat.exists_eq_add_of_le' hfuel
    rw [gatherIn_of_cons hnext, if_neg hnew, run_recorded_bind]
    rcases hfails with hread | ⟨text, d, hread, himports, rfl⟩
    · rw [hread]
    · simp only [hread, himports]
      rfl
  nodup := by
    rw [Keyed.isSome_lookup?, decide_eq_true_eq] at hnew
    simpa [List.nodup_append] using ⟨hnodup, fun name hname e => hnew (e ▸ hname)⟩
  length_le := Nat.add_le_add_right hlength 1

theorem keys_concat (sources : Keyed String) (name text : String) :
    Keyed.keys (sources ++ [(name, text)]) = Keyed.keys sources ++ [name] :=
  List.map_append ..

theorem length_le_of_keys (hnodup : (Keyed.keys sources).Nodup)
    (hkeys : Keyed.keys sources ⊆ names) : sources.length ≤ names.length := by
  simpa [Keyed.keys] using (hnodup.subperm hkeys).length_le

/-- The rounds that are left suffice for the imports of a unit if a new name pays for them. -/
theorem budget {imports rest known names width rounds : Nat} (hknown : known + 1 ≤ names)
    (hwidth : imports ≤ width) (h : rest + 1 + (names - known) * width ≤ rounds + 1) :
    imports + rest + (names - (known + 1)) * width ≤ rounds := by
  obtain ⟨k, rfl⟩ := Nat.exists_eq_add_of_le hknown
  have hbefore : known + 1 + k - known = k + 1 := by omega
  have hafter : known + 1 + k - (known + 1) = k := by omega
  rw [hbefore, Nat.succ_mul] at h
  rw [hafter]
  omega

end

/-! ## Searches among finitely many names -/

/-- What a search stays among: units with the property `P`, of which those that can be read have one
of the `names` and import no more than `width` others. -/
structure Confined (t : FileTree) (base : String) (P : SourceUnit → Prop) (names : List String)
    (width : Nat) : Prop where
  name_mem : ∀ u text, P u → t.read u.file = .ok text → u.name ∈ names
  length_le : ∀ u text, P u → t.read u.file = .ok text → (importPaths text).length ≤ width
  locate : ∀ u text p v, P u → t.read u.file = .ok text → p ∈ importPaths text →
    locate t base u p = .ok v → P v

section
variable {order : Order} {t : FileTree} {base : String} {names : List String} {rounds width : Nat}
  {sources : Keyed String} {pending : List SourceUnit} {P : SourceUnit → Prop}

/-- **A search that stays among finitely many names comes to an end**, in any order and within a
number of rounds that only depends on how many names and imports there are. -/
theorem Confined.exists_ends (h : Confined t base P names width)
    (hnodup : (Keyed.keys sources).Nodup) (hkeys : Keyed.keys sources ⊆ names)
    (hpending : ∀ u ∈ pending, P u)
    (hrounds : pending.length + (names.length - sources.length) * width ≤ rounds) :
    ∃ answer opened, Ends order t base names rounds sources pending answer opened := by
  have hlength := length_le_of_keys hnodup hkeys
  induction rounds generalizing sources pending with
  | zero =>
    have hempty : pending = [] := List.length_eq_zero_iff.1 (by omega)
    have hnext : order.arrange sources pending = [] :=
      List.perm_nil.1 (hempty ▸ order.perm sources pending)
    exact ⟨_, _, .nil hnext hnodup hlength⟩
  | succ rounds ih =>
    cases hnext : order.arrange sources pending with
    | nil => exact ⟨_, _, (Ends.nil hnext hnodup hlength).mono (Nat.zero_le _)⟩
    | cons u rest =>
      have hperm := order.perm_cons hnext
      obtain ⟨hu, hrest⟩ := List.forall_mem_cons.1 fun v hv => hpending v (hperm.mem_iff.2 hv)
      rw [hperm.length_eq, List.length_cons] at hrounds
      by_cases hknown : (Keyed.lookup? u.name sources).isSome
      · obtain ⟨answer, opened, hends⟩ := ih hnodup hkeys hrest (by omega) hlength
        exact ⟨answer, opened, hends.known hnext hknown⟩
      cases hread : readUnit t u with
      | error e =>
        exact ⟨_, _, (Ends.failed hnext hknown hnodup hlength (.inl hread)).mono
          (Nat.le_add_left 1 rounds)⟩
      | ok text =>
        cases himports : importedUnits t base u text with
        | error d =>
          exact ⟨_, _, (Ends.failed hnext hknown hnodup hlength
            (.inr ⟨text, d, hread, himports, rfl⟩)).mono (Nat.le_add_left 1 rounds)⟩
        | ok imports =>
          have hok := readUnit_eq_ok hread
          have hnodup' : (Keyed.keys (sources ++ [(u.name, text)])).Nodup := by
            rw [keys_concat, List.nodup_append_comm]
            rw [Keyed.isSome_lookup?, decide_eq_true_eq] at hknown
            exact List.nodup_cons.2 ⟨hknown, hnodup⟩
          have hkeys' : Keyed.keys (sources ++ [(u.name, text)]) ⊆ names := by
            rw [keys_concat]
            exact List.append_subset.2 ⟨hkeys, by simpa using h.name_mem u text hu hok⟩
          have hlength' := length_le_of_keys hnodup' hkeys'
          have hwidth : imports.length ≤ width := by
            rw [← (mapM_eq_ok_iff.1 himports).length_eq]
            exact h.length_le u text hu hok
          have hpending' : ∀ v ∈ imports.reverse ++ rest, P v := by
            intro v hv
            rcases List.mem_append.1 hv with hv | hv
            · obtain ⟨p, hp, hlocate⟩ := (mem_iff_of_mapM himports v).1 (List.mem_reverse.1 hv)
              exact h.locate u text p v hu hok hp hlocate
            · exact hrest v hv
          have hrounds' : (imports.reverse ++ rest).length +
              (names.length - (sources ++ [(u.name, text)]).length) * width ≤ rounds := by
            rw [List.length_append] at hlength' ⊢
            rw [List.length_reverse, List.length_append]
            exact budget hlength' hwidth hrounds
          obtain ⟨answer, opened, hends⟩ := ih hnodup' hkeys' hpending' hrounds' hlength'
          exact ⟨answer, u :: opened, hends.next hnext hknown hread himports⟩

end

/-! ## Searches of the program -/

theorem confined_stems {t : FileTree} {base : String} {main : SourceUnit}
    (hmain : Path.isAbsolute main.file) :
    Confined t base (Stems t base main) (names t main.name) t.weight where
  name_mem _ _ hstems hread := hstems.name_mem hread
  length_le _ _ _ hread := length_importPaths_le_weight (FileTree.mem_texts_of_read hread)
  locate _ _ _ _ hstems hread hp hlocate := hstems.locate hmain hread hp hlocate

/-- In any order a search comes to an end within its bound. -/
theorem exists_ends_searchBound (order : Order) (t : FileTree) (cwd path base : String) :
    ∃ answer opened, Ends order t base (names t (mainUnit cwd path).name) (searchBound t) []
      [mainUnit cwd path] answer opened := by
  have hmain : Path.isAbsolute (mainUnit cwd path).file := mainUnit_isAbsolute cwd path
  refine (confined_stems hmain).exists_ends List.nodup_nil (List.nil_subset _) ?_ ?_
  · simpa using Stems.seed .main
  · rw [searchBound, Nat.add_comm]
    exact Nat.succ_le_succ (Nat.mul_le_mul_right _ (length_names_le t _))

/-- **The search for imports comes to an end**, whatever the files are and import. For all numbers
of rounds from a bound on it gives one answer, which is not that it was endless, and asks for the
same units, of which no two have one name; their number is bounded too. -/
theorem sourcesOf_ends (t : FileTree) (cwd path : String) (base : Option String) :
    let tree := { t with directory := cwd }
    let main := mainUnit cwd path
    let dir := base.getD (Path.parent main.name)
    ∃ answer opened,
      (∀ rounds ≥ searchBound tree,
        (gather (recorded (readUnit tree)) tree dir rounds [] [main]).run.run [] =
          (answer, opened)) ∧
      answer ≠ .error (.defect .endless) ∧
      (opened.map SourceUnit.name).Nodup ∧
      opened.length ≤ nameBound tree + 1 ∧
      sourcesOf t cwd path base =
        if Path.hasNull path then .error (.defect .outOfDomain) else answer := by
  intro tree main dir
  obtain ⟨answer, opened, hends⟩ := exists_ends_searchBound .lastFirst tree cwd path dir
  refine ⟨answer, opened, fun rounds hrounds => ?_, hends.ne_endless, hends.nodup, ?_, ?_⟩
  · rw [← gatherIn_lastFirst, hends.run_eq rounds hrounds, List.nil_append]
  · have hlength : 0 + opened.length ≤ (names tree main.name).length + 1 := hends.length_le
    have hnames := length_names_le tree main.name
    omega
  · rw [sourcesOf, sourcesBy]
    split
    · rfl
    · rw [← gatherIn_lastFirst, ← fst_run_recorded .lastFirst _ _ _ _ _ _ [],
        hends.run_eq _ (Nat.le_refl _)]

end ContractAudit.Solidity
