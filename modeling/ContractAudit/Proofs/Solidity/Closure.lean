/-
  The files that a search for imports reads.

  * `Reads t base seen pending opened`: a search that knows the names `seen` reads the units
    `opened`, in this order, until nothing is pending.  A pending unit with a known name is dropped;
    any other one is read, and its imports are pending from then on.
  * `exists_reads`: what a search gathers comes from such a sequence, and these are the units in its
    log if it keeps one.
  * `Visits t base seen pending opened`: the same for a search that takes the pending units in any
    order, of which `Reads` is one (`Reads.visits`).
  * `Visits.pending_mem` and `Visits.imports_mem`: a name that is pending or imported is known in
    the end; `Visits.nodup`: no name is read twice; `Visits.reached`: only what is imported is read.
  * `Imports t base opened u v`: the unit `u` is among `opened`, and a directive in the text that
    was read for it names `v`.
  * `sourcesOf_closed`: the sources of a file are its import closure, each unit read once.
-/
import Mathlib.Data.List.Nodup
import Mathlib.Logic.Relation
import ContractAudit.Proofs.Answers
import ContractAudit.Solidity.Unit

namespace ContractAudit.Solidity

/-! ## Units that are read -/

/-- A unit that was read: its text, and the units that it imports. -/
structure Opened where
  unit : SourceUnit
  text : String
  imports : List SourceUnit

/-- The entry of a unit among the sources. -/
def Opened.entry (o : Opened) : String × String :=
  (o.unit.name, o.text)

/-- The names of some units that were read. -/
def namesOf (opened : List Opened) : List String :=
  opened.map fun o => o.unit.name

theorem append_namesOf_cons (seen : List String) (o : Opened) (opened : List Opened) :
    seen ++ namesOf (o :: opened) = seen ++ [o.unit.name] ++ namesOf opened :=
  List.append_cons ..

theorem keys_map_entry (opened : List Opened) :
    Keyed.keys (opened.map Opened.entry) = namesOf opened := by
  rw [Keyed.keys, List.map_map]
  rfl

/-- Reading with a log of the units that are read. -/
def logged {ε : Type} (reads : SourceUnit → Except ε String) (u : SourceUnit) :
    StateT (List SourceUnit) (Except ε) String := do
  modify (· ++ [u])
  reads u

section
variable (t : FileTree) (base : String)

/-- Among the units that were read, `u` imports `v`. -/
def Imports (opened : List Opened) (u v : SourceUnit) : Prop :=
  ∃ o ∈ opened, o.unit = u ∧ ∃ path ∈ importPaths o.text, locate t base u path = .ok v

/-- What a search reads that knows the names `seen`. -/
inductive Reads : (seen : List String) → (pending : List SourceUnit) → List Opened → Prop
  | done {seen} : Reads seen [] []
  | known {seen u pending opened} : u.name ∈ seen → Reads seen pending opened →
      Reads seen (u :: pending) opened
  | next {seen u pending text imports opened} : u.name ∉ seen →
      t.read u.file = .ok text → importedUnits t base u text = .ok imports →
      Reads (seen ++ [u.name]) (imports.reverse ++ pending) opened →
      Reads seen (u :: pending) (⟨u, text, imports⟩ :: opened)

/-- What a search reads that knows the names `seen` and goes on with any pending unit. -/
inductive Visits : (seen : List String) → (pending : List SourceUnit) → List Opened → Prop
  | done {seen} : Visits seen [] []
  | known {seen pending u rest opened} : pending.Perm (u :: rest) → u.name ∈ seen →
      Visits seen rest opened → Visits seen pending opened
  | next {seen pending u rest text imports opened} : pending.Perm (u :: rest) → u.name ∉ seen →
      t.read u.file = .ok text → importedUnits t base u text = .ok imports →
      Visits (seen ++ [u.name]) (imports.reverse ++ rest) opened →
      Visits seen pending (⟨u, text, imports⟩ :: opened)

variable {t base}

theorem readUnit_eq_ok {u : SourceUnit} {text : String} (h : readUnit t u = .ok text) :
    t.read u.file = .ok text := by
  rw [readUnit] at h
  cases hread : t.read u.file with
  | error e =>
    rw [hread] at h
    cases e <;> cases h
  | ok s =>
    rw [hread] at h
    cases h
    rfl

/-- **What a search gathers is what it reads**: with a log of the units that are read, the same
search gathers the same and has these in its log. -/
theorem exists_reads {fuel : ℕ} {sources result : Keyed String} {pending : List SourceUnit}
    (h : gather (readUnit t) t base fuel sources pending = .ok result) :
    ∃ opened, Reads t base (Keyed.keys sources) pending opened ∧
      result = sources ++ opened.map Opened.entry ∧
      ∀ log, (gather (logged (readUnit t)) t base fuel sources pending).run log =
        .ok (result, log ++ opened.map Opened.unit) := by
  induction fuel, sources, pending using gather.induct with
  | case1 fuel sources =>
    rw [gather] at h
    cases h
    refine ⟨[], .done, by simp, fun log => ?_⟩
    rw [gather, List.map_nil, List.append_nil]
    rfl
  | case2 => cases h
  | case3 fuel sources u pending hseen ih =>
    rw [gather, if_pos hseen] at h
    obtain ⟨opened, hreads, hresult, hlog⟩ := ih h
    have hknown : u.name ∈ Keyed.keys sources := by simpa [Keyed.isSome_lookup?] using hseen
    refine ⟨opened, .known hknown hreads, hresult, fun log => ?_⟩
    rw [gather, if_pos hseen, hlog]
  | case4 fuel sources u pending hseen ih =>
    rw [gather, if_neg hseen] at h
    cases hread : readUnit t u with
    | error e =>
      rw [hread] at h
      cases h
    | ok text =>
      rw [hread, ok_bind] at h
      cases himports : importedUnits t base u text with
      | error d =>
        rw [himports] at h
        cases h
      | ok imports =>
        rw [himports] at h
        obtain ⟨opened, hreads, hresult, hlog⟩ := ih text imports h
        rw [Keyed.keys, List.map_append] at hreads
        have hnew : u.name ∉ Keyed.keys sources := by simpa [Keyed.isSome_lookup?] using hseen
        refine ⟨⟨u, text, imports⟩ :: opened, .next hnew (readUnit_eq_ok hread) himports hreads,
          by simp [hresult, Opened.entry], fun log => ?_⟩
        rw [gather, if_neg hseen]
        simp [logged, hread, himports, hlog]

/-! ## What is read -/

section
variable {seen : List String} {pending : List SourceUnit} {opened : List Opened}

theorem Visits.opened_ok (h : Visits t base seen pending opened) :
    ∀ o ∈ opened, t.read o.unit.file = .ok o.text ∧
      (importPaths o.text).mapM (locate t base o.unit) = .ok o.imports := by
  induction h with
  | done => simp
  | known _ _ _ ih => exact ih
  | next _ _ hread himports _ ih => exact List.forall_mem_cons.2 ⟨⟨hread, himports⟩, ih⟩

/-- **No name is read twice**, nor one that was known before. -/
theorem Visits.nodup (h : Visits t base seen pending opened) (hseen : seen.Nodup) :
    (seen ++ namesOf opened).Nodup := by
  induction h with
  | done => simpa [namesOf] using hseen
  | known _ _ _ ih => exact ih hseen
  | next _ hnew _ _ _ ih =>
    rw [append_namesOf_cons]
    exact ih (List.nodup_middle.2 (by simpa using ⟨hnew, hseen⟩))

/-- What is pending is known in the end. -/
theorem Visits.pending_mem (h : Visits t base seen pending opened) :
    ∀ u ∈ pending, u.name ∈ seen ++ namesOf opened := by
  induction h with
  | done => simp
  | known hperm hknown _ ih =>
    intro u hu
    rcases List.mem_cons.1 (hperm.mem_iff.1 hu) with rfl | hu
    · exact List.mem_append_left _ hknown
    · exact ih u hu
  | next hperm _ _ _ _ ih =>
    rw [append_namesOf_cons]
    intro v hv
    rcases List.mem_cons.1 (hperm.mem_iff.1 hv) with rfl | hv
    · simp
    · exact ih v (List.mem_append_right _ hv)

/-- **What is imported is known in the end.** -/
theorem Visits.imports_mem (h : Visits t base seen pending opened) :
    ∀ o ∈ opened, ∀ v ∈ o.imports, v.name ∈ seen ++ namesOf opened := by
  induction h with
  | done => simp
  | known _ _ _ ih => exact ih
  | next _ _ _ _ hvisits ih =>
    rw [append_namesOf_cons]
    -- the imports of this unit are pending when the search goes on
    refine List.forall_mem_cons.2 ⟨fun v hv => ?_, ih⟩
    exact hvisits.pending_mem v (List.mem_append_left _ (List.mem_reverse.2 hv))

/-- **Only what is imported is read**: what holds of the pending units, and of the imports of a unit
that is read if it holds of that unit, holds of all units that are read. -/
theorem Visits.reached (h : Visits t base seen pending opened) {P : SourceUnit → Prop}
    (himports : ∀ o ∈ opened, P o.unit → ∀ v ∈ o.imports, P v) (hpending : ∀ u ∈ pending, P u) :
    ∀ o ∈ opened, P o.unit := by
  induction h with
  | done => simp
  | known hperm _ _ ih =>
    exact ih himports fun u hu => hpending u (hperm.mem_iff.2 (List.mem_cons_of_mem _ hu))
  | next hperm _ _ _ _ ih =>
    obtain ⟨hown, hothers⟩ := List.forall_mem_cons.1 himports
    obtain ⟨hu, hrest⟩ := List.forall_mem_cons.1 fun v hv => hpending v (hperm.mem_iff.2 hv)
    refine List.forall_mem_cons.2 ⟨hu, ih hothers fun v hv => ?_⟩
    rcases List.mem_append.1 hv with hv | hv
    · exact hown hu v (List.mem_reverse.1 hv)
    · exact hrest v hv

/-- A search that takes the last pending unit first takes one of them. -/
theorem Reads.visits (h : Reads t base seen pending opened) :
    Visits t base seen pending opened := by
  induction h with
  | done => exact .done
  | known hknown _ ih => exact .known (.refl _) hknown ih
  | next hnew hread himports _ ih => exact .next (.refl _) hnew hread himports ih

theorem Reads.opened_ok (h : Reads t base seen pending opened) :
    ∀ o ∈ opened, t.read o.unit.file = .ok o.text ∧
      (importPaths o.text).mapM (locate t base o.unit) = .ok o.imports :=
  h.visits.opened_ok

theorem Reads.nodup (h : Reads t base seen pending opened) (hseen : seen.Nodup) :
    (seen ++ namesOf opened).Nodup :=
  h.visits.nodup hseen

theorem Reads.imports_mem (h : Reads t base seen pending opened) :
    ∀ o ∈ opened, ∀ v ∈ o.imports, v.name ∈ seen ++ namesOf opened :=
  h.visits.imports_mem

theorem Reads.reached (h : Reads t base seen pending opened) {P : SourceUnit → Prop}
    (himports : ∀ o ∈ opened, P o.unit → ∀ v ∈ o.imports, P v) (hpending : ∀ u ∈ pending, P u) :
    ∀ o ∈ opened, P o.unit :=
  h.visits.reached himports hpending

end

end

/-! ## The sources of a file -/

/-- **The sources of a file are its import closure.** They come from the units `opened` that the
search reads, as its log tells. The main file is the first one, every import of a unit that is read
is the name of one, each of them is reached from the main file by imports among them, and none is
read twice. -/
theorem sourcesOf_closed {t : FileTree} {cwd path : String} {base : Option String}
    {sources : Keyed String} (h : sourcesOf t cwd path base = .ok sources) :
    let tree := { t with directory := cwd }
    let main := mainUnit cwd path
    let dir := base.getD (Path.parent main.name)
    ∃ opened : List Opened,
      (sourcesBy (logged (readUnit tree)) tree path base).run [] =
        .ok (sources, opened.map Opened.unit) ∧
      sources = opened.map Opened.entry ∧
      (Keyed.keys sources).head? = some main.name ∧
      (∀ o ∈ opened, tree.read o.unit.file = .ok o.text ∧
        ∀ p ∈ importPaths o.text, ∃ v, locate tree dir o.unit p = .ok v ∧
          v.name ∈ Keyed.keys sources) ∧
      (∀ o ∈ opened, Relation.ReflTransGen (Imports tree dir opened) main o.unit) ∧
      (namesOf opened).Nodup := by
  intro tree main dir
  rw [sourcesOf, sourcesBy] at h
  split at h
  · cases h
  · next hnull =>
    obtain ⟨opened, hreads, hresult, hlog⟩ := exists_reads h
    rw [List.nil_append] at hresult
    replace hreads : Reads tree dir [] [main] opened := hreads
    have hkeys : Keyed.keys sources = namesOf opened := by rw [hresult, keys_map_entry]
    refine ⟨opened, ?_, hresult, ?_, fun o ho => ?_, ?_, hreads.nodup List.nodup_nil⟩
    · rw [sourcesBy, if_neg hnull]
      exact hlog []
    · rw [hkeys]
      cases hreads with
      | known hknown => cases hknown
      | next => rfl
    · obtain ⟨hread, hlocated⟩ := hreads.opened_ok o ho
      refine ⟨hread, fun p hp => ?_⟩
      obtain ⟨v, hv, hmem⟩ := exists_of_mapM hlocated p hp
      exact ⟨v, hv, hkeys ▸ hreads.imports_mem o ho v hmem⟩
    · refine hreads.reached (fun o ho hreached v hv => ?_) fun u hu => ?_
      · obtain ⟨-, hlocated⟩ := hreads.opened_ok o ho
        obtain ⟨p, hp, hlocate⟩ := (mem_iff_of_mapM hlocated v).1 hv
        exact hreached.tail ⟨o, ho, rfl, p, hp, hlocate⟩
      · rw [List.mem_singleton.1 hu]

/-- Two files that import each other, and a package that both sides of the main file import, which
imports one of them again: four units are read. -/
theorem cyclic_sources_closed :
    let tree : FileTree :=
      { entries :=
          [(["w", "main.sol"],
              .file (Text.Utf8.encode "import \"./lib/a.sol\";\nimport 'b.sol';\n")),
            (["w", "lib", "a.sol"],
              .file (Text.Utf8.encode "import '../main.sol';\nimport 'pkg/c.sol';\n")),
            (["w", "b.sol"], .file (Text.Utf8.encode "import 'pkg/c.sol';\n")),
            (["w", "node_modules", "pkg", "c.sol"], .file (Text.Utf8.encode "import 'b.sol';\n"))]
        directory := "/w" }
    ∃ sources, sourcesOf tree "/w" "main.sol" (some ".") = .ok sources ∧
      Keyed.keys sources = ["/w/main.sol", "b.sol", "pkg/c.sol", "/w/lib/a.sol"] ∧
      ∃ opened,
        (sourcesBy (logged (readUnit tree)) tree "main.sol" (some ".")).run [] =
          .ok (sources, opened.map Opened.unit) ∧
        sources = opened.map Opened.entry ∧ (namesOf opened).Nodup ∧
        ∀ o ∈ opened, Relation.ReflTransGen (Imports tree "." opened)
          (mainUnit "/w" "main.sol") o.unit := by
  intro tree
  have hkeys : (sourcesOf tree "/w" "main.sol" (some ".")).toOption.map Keyed.keys =
      some ["/w/main.sol", "b.sol", "pkg/c.sol", "/w/lib/a.sol"] := by decide +kernel
  cases h : sourcesOf tree "/w" "main.sol" (some ".") with
  | error e =>
    rw [h] at hkeys
    cases hkeys
  | ok sources =>
    rw [h] at hkeys
    obtain ⟨opened, hlog, hentries, -, -, hreached, hnodup⟩ := sourcesOf_closed h
    exact ⟨sources, rfl, Option.some.inj hkeys, opened, hlog, hentries, hnodup, hreached⟩

end ContractAudit.Solidity
