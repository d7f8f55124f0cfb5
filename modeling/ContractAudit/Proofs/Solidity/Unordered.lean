/-
  Searches in different orders.

  * `Leads`, `Reached`: a unit that can be read leads to those that it imports, and the main unit
    reaches what a chain of imports leads to.
  * `OneFile`: chains of imports that reach one name reach one file.  Then the sources are the texts
    of what is reached (`Visits.mem_entries_iff`), which no order has a part in.  Without it the
    first file that is found under a name counts, as `order_matters` shows.  Names that designate
    one file each reach one file each (`Unshadowed`, `oneFile_of_unshadowed`).
  * `OneFate`: under one name all units can be read or none.  Then a search that returns in one
    order returns in all of them (`Visits.sound`, `Sound.exists_sources`).
  * `Rearranged`: trees whose files import the same units, in different orders.  They reach the same
    units (`Rearranged.reached_iff`).
  * `sourcesOf_unordered`: the sources do not depend on the order in which imports are taken, and
    the order of the directives in a file makes no difference to the other ones.
-/
import ContractAudit.Proofs.Path.Rewrite
import ContractAudit.Proofs.Solidity.Termination

namespace ContractAudit.Solidity

/-! ## Chains of imports -/

section
variable (t : FileTree) (base : String) (main : SourceUnit)

/-- The unit `u` can be read and imports `v`. -/
def Leads (u v : SourceUnit) : Prop :=
  ∃ text, t.read u.file = .ok text ∧ ∃ p ∈ importPaths text, locate t base u p = .ok v

/-- A chain of imports leads from the main unit to `u`. -/
def Reached (u : SourceUnit) : Prop :=
  Relation.ReflTransGen (Leads t base) main u

/-- Chains of imports that reach one name reach one file, if they reach files that can be read. -/
def OneFile : Prop :=
  ∀ u v text text', Reached t base main u → Reached t base main v → u.name = v.name →
    t.read u.file = .ok text → t.read v.file = .ok text' → t.place u.file = t.place v.file

/-- Chains of imports that reach one name reach files that can be read, or none of them does. -/
def OneFate : Prop :=
  ∀ u v text, Reached t base main u → Reached t base main v → u.name = v.name →
    t.read u.file = .ok text → ∃ text', t.read v.file = .ok text'

/-- All chains of imports reach units that can be read and whose imports are located. -/
def Sound : Prop :=
  ∀ u, Reached t base main u → ∃ text imports, t.read u.file = .ok text ∧
    importedUnits t base u text = .ok imports

end

section
variable {t : FileTree} {base p text text' name : String} {main u v w : SourceUnit}
  {opened : List Opened}

theorem locate_of_not_dot (h : ¬ p.startsWith ".") : locate t base u p = locate t base v p := by
  rw [locate, locate, if_neg h, if_neg h]

/-- Units of one name give one name to what they import. -/
theorem exists_locate_of_name (hname : u.name = v.name) (h : locate t base u p = .ok w) :
    ∃ w', locate t base v p = .ok w' ∧ w'.name = w.name := by
  by_cases hdot : p.startsWith "."
  · rw [locate_relative hdot] at h
    cases h
    exact ⟨_, locate_relative hdot, by rw [SourceUnit.relative, SourceUnit.relative, hname]⟩
  · exact ⟨w, by rw [locate_of_not_dot hdot, h], rfl⟩

theorem OneFile.text_eq (hone : OneFile t base main) (hu : Reached t base main u)
    (hv : Reached t base main v) (hname : u.name = v.name) (hread : t.read u.file = .ok text)
    (hread' : t.read v.file = .ok text') : text = text' :=
  FileTree.read_eq_of_place hread hread' (hone u v _ _ hu hv hname hread hread')

theorem reached_main : Reached t base main main :=
  Relation.ReflTransGen.refl

/-- Whether everything that the units lead to is among them. -/
def closedUnits (t : FileTree) (base : String) (units : List SourceUnit) : Bool :=
  units.all fun u => (t.read u.file).toOption.all fun text => (importPaths text).all fun p =>
    (locate t base u p).toOption.all units.contains

/-- What is reached from one of the units is one of them, if nothing leads out of them. -/
theorem Reached.mem {units : List SourceUnit} (hu : Reached t base main u)
    (hclosed : closedUnits t base units) (hmain : main ∈ units) : u ∈ units := by
  induction hu with
  | refl => exact hmain
  | @tail b c _ hleads ih =>
    obtain ⟨text, hread, p, hp, hlocate⟩ := hleads
    have hb := List.all_eq_true.1 hclosed b ih
    rw [hread] at hb
    have hlocated := List.all_eq_true.1 hb p hp
    rw [hlocate] at hlocated
    exact List.contains_iff_mem.1 hlocated

/-! ## Names that reach one file -/

/-- Names that chains of imports reach do not designate a file below the base directory and another
one in a package there. -/
def Unshadowed (t : FileTree) (base : String) (main : SourceUnit) : Prop :=
  ∀ u text text', Reached t base main u → ¬ Path.isAbsolute u.name →
    t.read (Path.normal (Path.joined base u.name)) = .ok text →
    t.read (Path.normal (Path.joined (Path.joined base packageFolder) u.name)) = .ok text' →
    Path.normal (Path.joined base u.name) =
      Path.normal (Path.joined (Path.joined base packageFolder) u.name)

theorem Reached.stems (hmain : Path.isAbsolute main.file) (hu : Reached t base main u) :
    Stems t base main u := by
  induction hu with
  | refl => exact .seed .main
  | tail _ hleads ih =>
    obtain ⟨text, hread, p, hp, hlocate⟩ := hleads
    exact ih.locate hmain hread hp hlocate

/-- **Names reach one file each if they designate one each.** -/
theorem oneFile_of_unshadowed {cwd path : String} (hbase : Path.isAbsolute base)
    (himports : ∀ text ∈ t.texts, ∀ p ∈ importPaths text,
      p.startsWith "." ∨ ¬ p.endsWith "/" ∧ ¬ p.endsWith "/.")
    (hunshadowed : Unshadowed t base (mainUnit cwd path)) :
    OneFile t base (mainUnit cwd path) := by
  have hmain : Path.isAbsolute (mainUnit cwd path).name := mainUnit_isAbsolute cwd path
  have hmainFile : Path.isAbsolute (mainUnit cwd path).file := hmain
  have hdesignated {u : SourceUnit} (hu : Reached t base (mainUnit cwd path) u) :
      Designated base u :=
    (hu.stems hmainFile).designated hmain rfl fun _ _ hs hread => hs.exists_parts himports hread
  intro u v text text' hreached hreached' hname hread hread'
  have hu := hdesignated hreached
  have hv := hdesignated hreached'
  have hfile := hu.isAbsolute hbase
  have hfile' := hv.isAbsolute hbase
  rw [FileTree.place_of_isAbsolute hfile, FileTree.place_of_isAbsolute hfile']
  have hnormal := FileTree.read_normal hfile hread
  have hnormal' := FileTree.read_normal hfile' hread'
  rw [Designated] at hu hv
  rw [← hname] at hv
  refine congrArg Path.parts ?_
  split at hu
  · next habsolute =>
    rw [if_pos habsolute] at hv
    rw [hu, hv]
  · next hrelative =>
    rw [if_neg hrelative] at hv
    have hone := hunshadowed u
    rcases hu with hu | hu <;> rcases hv with hv | hv
    · rw [hu, hv]
    · rw [hu, hv]
      exact hone _ _ hreached hrelative (hu ▸ hnormal) (hv ▸ hnormal')
    · rw [hu, hv]
      exact (hone _ _ hreached hrelative (hv ▸ hnormal') (hu ▸ hnormal)).symm
    · rw [hu, hv]

/-! ## The units that are read -/

theorem Visits.opened_reached (h : Visits t base [] [main] opened) :
    ∀ o ∈ opened, Reached t base main o.unit := by
  refine h.reached (P := Reached t base main) (fun o ho hreached v hv => ?_) ?_
  · obtain ⟨hread, hlocated⟩ := h.opened_ok o ho
    obtain ⟨p, hp, hlocate⟩ := (mem_iff_of_mapM hlocated v).1 hv
    exact hreached.tail ⟨o.text, hread, p, hp, hlocate⟩
  · simpa using reached_main

/-- **The name of every unit that is reached is one of a unit that is read**, though perhaps not of
the unit itself. -/
theorem Visits.exists_opened (h : Visits t base [] [main] opened) (hone : OneFile t base main)
    (hu : Reached t base main u) : ∃ o ∈ opened, o.unit.name = u.name := by
  induction hu with
  | refl => simpa [namesOf] using h.pending_mem main (List.mem_singleton_self main)
  | @tail b c hb hleads ih =>
    obtain ⟨text, hread, p, hp, hlocate⟩ := hleads
    obtain ⟨o, ho, hname⟩ := ih
    obtain ⟨hopened, hlocated⟩ := h.opened_ok o ho
    -- the unit that was read under this name imports the same
    obtain rfl := hone.text_eq (h.opened_reached o ho) hb hname hopened hread
    obtain ⟨v, hv, hvname⟩ := exists_locate_of_name hname.symm hlocate
    have hmem : v ∈ o.imports := (mem_iff_of_mapM hlocated v).2 ⟨p, hp, hv⟩
    simpa [namesOf, hvname] using h.imports_mem o ho v hmem

/-- **The sources are the texts of what is reached**, whatever the order of the search was. -/
theorem Visits.mem_entries_iff (h : Visits t base [] [main] opened) (hone : OneFile t base main) :
    (name, text) ∈ opened.map Opened.entry ↔
      ∃ u, Reached t base main u ∧ u.name = name ∧ t.read u.file = .ok text := by
  constructor
  · intro hmem
    obtain ⟨o, ho, hentry⟩ := List.mem_map.1 hmem
    cases hentry
    exact ⟨o.unit, h.opened_reached o ho, rfl, (h.opened_ok o ho).1⟩
  · rintro ⟨u, hu, rfl, hread⟩
    obtain ⟨o, ho, hname⟩ := h.exists_opened hone hu
    obtain rfl := hone.text_eq (h.opened_reached o ho) hu hname (h.opened_ok o ho).1 hread
    exact List.mem_map.2 ⟨o, ho, by rw [Opened.entry, hname]⟩

/-- If one search returns, all chains of imports can be followed. -/
theorem Visits.sound (h : Visits t base [] [main] opened) (hone : OneFile t base main)
    (hfate : OneFate t base main) : Sound t base main := by
  intro u hu
  obtain ⟨o, ho, hname⟩ := h.exists_opened hone hu
  obtain ⟨hopened, hlocated⟩ := h.opened_ok o ho
  have hreached := h.opened_reached o ho
  obtain ⟨text, hread⟩ := hfate o.unit u o.text hreached hu hname hopened
  obtain rfl := hone.text_eq hreached hu hname hopened hread
  cases himports : importedUnits t base u o.text with
  | ok imports => exact ⟨o.text, imports, hread, himports⟩
  | error d =>
    obtain ⟨p, hp, hlocate⟩ := exists_of_mapM_error himports
    obtain ⟨v, hv, -⟩ := exists_of_mapM hlocated p hp
    obtain ⟨v', hv', -⟩ := exists_locate_of_name hname hv
    rw [hv'] at hlocate
    cases hlocate

end

/-! ## Searches that return -/

section
variable {order : Order} {t : FileTree} {base : String} {main : SourceUnit}

/-- A search that fails, but not for want of rounds, fails on a unit that it reaches. -/
theorem exists_failing {P : SourceUnit → Prop}
    (himports : ∀ u text imports, P u → t.read u.file = .ok text →
      importedUnits t base u text = .ok imports → ∀ v ∈ imports, P v)
    {fuel : Nat} {sources : Keyed String} {pending : List SourceUnit}
    (hpending : ∀ u ∈ pending, P u) {e : Fault CompileError}
    (h : gatherIn order (readUnit t) t base fuel sources pending = .error e)
    (he : e ≠ .defect .endless) :
    ∃ u, P u ∧ ∀ text imports, t.read u.file = .ok text →
      importedUnits t base u text ≠ .ok imports := by
  induction fuel generalizing sources pending with
  | zero =>
    rw [gatherIn] at h
    split at h
    · cases h
    · cases h
      exact absurd rfl he
  | succ fuel ih =>
    cases hnext : order.arrange sources pending with
    | nil =>
      rw [gatherIn_of_nil hnext] at h
      cases h
    | cons u rest =>
      have hperm := order.perm_cons hnext
      obtain ⟨hu, hrest⟩ := List.forall_mem_cons.1 fun v hv => hpending v (hperm.mem_iff.2 hv)
      rw [gatherIn_of_cons hnext] at h
      split at h
      · exact ih hrest h
      cases hread : readUnit t u with
      | error e' =>
        refine ⟨u, hu, fun text _ hok _ => ?_⟩
        rw [readUnit, hok] at hread
        cases hread
      | ok text =>
        have hok := readUnit_eq_ok hread
        rw [hread, ok_bind] at h
        cases hlocated : importedUnits t base u text with
        | error d =>
          refine ⟨u, hu, fun text' imports hok' hlocated' => ?_⟩
          rw [hok] at hok'
          cases hok'
          rw [hlocated] at hlocated'
          cases hlocated'
        | ok imports =>
          rw [hlocated] at h
          refine ih (fun v hv => ?_) h
          rcases List.mem_append.1 hv with hv | hv
          · exact himports u text imports hu hok hlocated v (List.mem_reverse.1 hv)
          · exact hrest v hv

variable {cwd path : String} {base : Option String} {result : Keyed String}

theorem hasNull_of_sourcesIn (h : sourcesIn order t cwd path base = .ok result) :
    Path.hasNull path = false := by
  rw [sourcesIn] at h
  split at h
  · cases h
  · simpa using ‹¬ Path.hasNull path = true›

theorem visits_of_sourcesIn (h : sourcesIn order t cwd path base = .ok result) :
    ∃ opened, Visits { t with directory := cwd }
      (base.getD (Path.parent (mainUnit cwd path).name)) [] [mainUnit cwd path] opened ∧
      result = opened.map Opened.entry := by
  rw [sourcesIn] at h
  split at h
  · cases h
  · obtain ⟨opened, hvisits, hresult⟩ := exists_visits h
    exact ⟨opened, hvisits, hresult⟩

/-- **If all chains of imports can be followed, a search in any order returns.** -/
theorem Sound.exists_sources
    (h : Sound { t with directory := cwd } (base.getD (Path.parent (mainUnit cwd path).name))
      (mainUnit cwd path))
    (hpath : Path.hasNull path = false) (order : Order) :
    ∃ result, sourcesIn order t cwd path base = .ok result := by
  rw [sourcesIn, if_neg (by simp [hpath])]
  obtain ⟨answer, opened, hends⟩ := exists_ends_searchBound order { t with directory := cwd }
    cwd path (base.getD (Path.parent (mainUnit cwd path).name))
  have hanswer := congrArg Prod.fst (hends.run_eq _ (Nat.le_refl _) [])
  rw [fst_run_recorded] at hanswer
  cases answer with
  | ok result => exact ⟨result, hanswer⟩
  | error e =>
    have hne : e ≠ .defect .endless := fun he => hends.ne_endless (by rw [he])
    obtain ⟨u, hu, hfails⟩ := exists_failing (P := Reached _ _ (mainUnit cwd path))
      (fun u text imports hu hread himports v hv => by
        obtain ⟨p, hp, hlocate⟩ := (mem_iff_of_mapM himports v).1 hv
        exact hu.tail ⟨text, hread, p, hp, hlocate⟩)
      (by simpa using reached_main) hanswer hne
    obtain ⟨text, imports, hread, himports⟩ := h u hu
    exact absurd himports (hfails text imports hread)

end

/-! ## Directives in another order -/

/-- Files and directories are at the same places in both trees, and what can be read in one can be
read in the other and imports the same, perhaps in another order. -/
structure Rearranged (t t' : FileTree) : Prop where
  shape : t.SameShape t'
  perm : ∀ path text, t.read path = .ok text →
    ∃ text', t'.read path = .ok text' ∧ (importPaths text').Perm (importPaths text)
  perm_symm : ∀ path text', t'.read path = .ok text' →
    ∃ text, t.read path = .ok text ∧ (importPaths text).Perm (importPaths text')

section
variable {t t' : FileTree} {base p : String} {main u v : SourceUnit}

theorem Rearranged.symm (h : Rearranged t t') : Rearranged t' t :=
  ⟨h.shape.symm, h.perm_symm, h.perm⟩

theorem Rearranged.locate_eq (h : Rearranged t t') : locate t' base u p = locate t base u p := by
  rw [locate, locate]
  simp only [h.shape.isFile_eq]

theorem Rearranged.leads (h : Rearranged t t') (hleads : Leads t base u v) : Leads t' base u v := by
  obtain ⟨text, hread, p, hp, hlocate⟩ := hleads
  obtain ⟨text', hread', hperm⟩ := h.perm u.file text hread
  exact ⟨text', hread', p, hperm.mem_iff.2 hp, h.locate_eq.trans hlocate⟩

/-- **The order of directives makes no difference to what is reached.** -/
theorem Rearranged.reached_iff (h : Rearranged t t') :
    Reached t' base main u ↔ Reached t base main u :=
  ⟨Relation.ReflTransGen.mono (fun _ _ => h.symm.leads) _ _,
    Relation.ReflTransGen.mono (fun _ _ => h.leads) _ _⟩

theorem Rearranged.oneFile (h : Rearranged t t') (hone : OneFile t base main) :
    OneFile t' base main := by
  intro u v text text' hu hv hname hread hread'
  obtain ⟨s, hs, -⟩ := h.perm_symm _ _ hread
  obtain ⟨s', hs', -⟩ := h.perm_symm _ _ hread'
  rw [h.shape.place_eq, h.shape.place_eq]
  exact hone u v s s' (h.reached_iff.1 hu) (h.reached_iff.1 hv) hname hs hs'

theorem Rearranged.sound (h : Rearranged t t') (hsound : Sound t base main) :
    Sound t' base main := by
  intro u hu
  obtain ⟨text, imports, hread, himports⟩ := hsound u (h.reached_iff.1 hu)
  obtain ⟨text', hread', hperm⟩ := h.perm u.file text hread
  cases himports' : importedUnits t' base u text' with
  | ok imports' => exact ⟨text', imports', hread', himports'⟩
  | error d =>
    obtain ⟨p, hp, hlocate⟩ := exists_of_mapM_error himports'
    obtain ⟨v, hv, -⟩ := exists_of_mapM himports p (hperm.mem_iff.1 hp)
    rw [h.locate_eq, hv] at hlocate
    cases hlocate

end

/-- The bytes `new` encode the text `text'`, which imports what the file at the place imports, in
another order. -/
def Reorders (t : FileTree) (place : List String) (new : List UInt8) (text' : String) : Prop :=
  ∃ old text, t.entryAt? place = some (.file old) ∧ FileTree.textOf? old = some text ∧
    FileTree.textOf? new = some text' ∧ (importPaths text').Perm (importPaths text)

section
variable {t : FileTree} {place : List String} {new : List UInt8} {path text text' : String}

theorem Reorders.read (h : Reorders t place new text') (hread : t.read path = .ok text) :
    (t.write place new).read path = .ok (if t.place path = place then text' else text) := by
  obtain ⟨old, s, hat, -, hnew, -⟩ := h
  obtain ⟨bytes, hbytes, htext⟩ := FileTree.exists_entry_of_read hread
  have hwritten := FileTree.entryAt?_write hat new (t.place path)
  have hshape := FileTree.sameShape_write hat new
  split
  · next hplace =>
    rw [if_pos hplace] at hwritten
    exact hshape.read hread hwritten hnew
  · next hplace =>
    rw [if_neg hplace, hbytes] at hwritten
    exact hshape.read hread hwritten htext

theorem Reorders.exists_read (h : Reorders t place new text')
    (hread : (t.write place new).read path = .ok text) : ∃ s, t.read path = .ok s := by
  obtain ⟨old, s, hat, hold, -, -⟩ := h
  have hshape := FileTree.sameShape_write hat new
  obtain ⟨bytes, hbytes, htext⟩ := FileTree.exists_entry_of_read hread
  rw [FileTree.entryAt?_write hat] at hbytes
  split at hbytes
  · next hplace => exact ⟨s, hshape.symm.read hread (hplace ▸ hat) hold⟩
  · exact ⟨text, hshape.symm.read hread hbytes htext⟩

theorem Reorders.rearranged (h : Reorders t place new text') :
    Rearranged t (t.write place new) := by
  have hperm (path text : String) (hread : t.read path = .ok text) :
      ∃ s, (t.write place new).read path = .ok s ∧ (importPaths s).Perm (importPaths text) := by
    refine ⟨_, h.read hread, ?_⟩
    split
    · next hplace =>
      obtain ⟨old, s, hat, hold, -, hperm⟩ := h
      obtain ⟨bytes, hbytes, htext⟩ := FileTree.exists_entry_of_read hread
      rw [hplace, hat] at hbytes
      cases hbytes
      rw [hold] at htext
      cases htext
      exact hperm
    · exact .refl _
  refine ⟨?_, hperm, fun path text hread => ?_⟩
  · obtain ⟨old, -, hat, -⟩ := h
    exact FileTree.sameShape_write hat new
  · obtain ⟨s, hs⟩ := h.exists_read hread
    obtain ⟨s', hs', hsperm⟩ := hperm path s hs
    rw [hread] at hs'
    cases hs'
    exact ⟨s, hs, hsperm.symm⟩

end

/-! ## Sources in any order -/

section
variable {t : FileTree} {cwd path : String} {base : Option String} {sources : Keyed String}

theorem nodup_keys_of_sourcesIn {order : Order}
    (h : sourcesIn order t cwd path base = .ok sources) : (Keyed.keys sources).Nodup := by
  obtain ⟨opened, hvisits, rfl⟩ := visits_of_sourcesIn h
  rw [keys_map_entry]
  exact hvisits.nodup List.nodup_nil

/-- Where names reach one file each, the sources are the texts of what is reached, in any order. -/
theorem mem_sourcesIn_iff {order : Order} (h : sourcesIn order t cwd path base = .ok sources) :
    let tree := { t with directory := cwd }
    let main := mainUnit cwd path
    let dir := base.getD (Path.parent main.name)
    OneFile tree dir main → ∀ name text, (name, text) ∈ sources ↔
      ∃ u, Reached tree dir main u ∧ u.name = name ∧ tree.read u.file = .ok text := by
  intro tree main dir hone name text
  obtain ⟨opened, hvisits, rfl⟩ := visits_of_sourcesIn h
  exact hvisits.mem_entries_iff hone

/-- **Searches in two orders give the same sources**, where names reach one file each. -/
theorem perm_of_sourcesIn {order order' : Order} {result : Keyed String}
    (h : sourcesIn order t cwd path base = .ok sources)
    (h' : sourcesIn order' t cwd path base = .ok result) :
    let main := mainUnit cwd path
    OneFile { t with directory := cwd } (base.getD (Path.parent main.name)) main →
      result.Perm sources := by
  intro main hone
  have hnodup := nodup_keys_of_sourcesIn h
  have hnodup' := nodup_keys_of_sourcesIn h'
  rw [List.perm_ext_iff_of_nodup hnodup'.of_map hnodup.of_map]
  intro entry
  rw [mem_sourcesIn_iff h hone, mem_sourcesIn_iff h' hone]

/-- **A file whose directives stand in another order has a text of its own**, and all else is as
before, where names reach one file each. -/
theorem sourcesIn_write {order order' : Order} {result : Keyed String} {place : List String}
    {new : List UInt8} {text' : String} (h : sourcesIn order t cwd path base = .ok sources)
    (h' : sourcesIn order' (t.write place new) cwd path base = .ok result) :
    let tree := { t with directory := cwd }
    let main := mainUnit cwd path
    let dir := base.getD (Path.parent main.name)
    OneFile tree dir main → Reorders tree place new text' →
      (Keyed.keys result).Perm (Keyed.keys sources) ∧
      ∀ name text, (name, text) ∈ sources → ∃ u, Reached tree dir main u ∧ u.name = name ∧
        tree.read u.file = .ok text ∧
        (name, if tree.place u.file = place then text' else text) ∈ result := by
  intro tree main dir hone hreorders
  have hmem := mem_sourcesIn_iff h hone
  have hrearranged : Rearranged tree (tree.write place new) := hreorders.rearranged
  have hmem' := mem_sourcesIn_iff h' (hrearranged.oneFile hone)
  have htexts (name text : String) (hentry : (name, text) ∈ sources) :
      ∃ u, Reached tree dir main u ∧ u.name = name ∧ tree.read u.file = .ok text ∧
        (name, if tree.place u.file = place then text' else text) ∈ result := by
    obtain ⟨u, hu, hname, hread⟩ := (hmem name text).1 hentry
    have hwritten := Reorders.read hreorders hread
    have hu' := hrearranged.reached_iff.2 hu
    exact ⟨u, hu, hname, hread, (hmem' name _).2 ⟨u, hu', hname, hwritten⟩⟩
  refine ⟨?_, htexts⟩
  rw [List.perm_ext_iff_of_nodup (nodup_keys_of_sourcesIn h') (nodup_keys_of_sourcesIn h)]
  intro name
  simp only [Keyed.keys, List.mem_map, Prod.exists, exists_and_right, exists_eq_right]
  constructor
  · rintro ⟨text, hentry⟩
    obtain ⟨u, hu, hname, hread⟩ := (hmem' name text).1 hentry
    obtain ⟨s, hs⟩ := Reorders.exists_read hreorders hread
    exact ⟨s, (hmem name s).2 ⟨u, hrearranged.reached_iff.1 hu, hname, hs⟩⟩
  · rintro ⟨text, hentry⟩
    obtain ⟨u, -, -, -, hresult⟩ := htexts name text hentry
    exact ⟨_, hresult⟩

/-- A package that imports a file of its own, under whose name there is another file below the base
directory. The file that is found first counts, which depends on the order of the search, and of the
directives. -/
theorem order_matters :
    let given := "import \"pkg/b.sol\";\nimport \"pkg/a.sol\";\n"
    let swapped := "import \"pkg/a.sol\";\nimport \"pkg/b.sol\";\n"
    let tree : FileTree :=
      { entries :=
          [(["w", "main.sol"], .file (Text.Utf8.encode given)),
            (["w", "pkg", "b.sol"], .file (Text.Utf8.encode "contract Own \x7b\x7d\n")),
            (["w", "node_modules", "pkg", "a.sol"],
              .file (Text.Utf8.encode "import \"./b.sol\";\n")),
            (["w", "node_modules", "pkg", "b.sol"],
              .file (Text.Utf8.encode "contract Packaged \x7b\x7d\n"))]
        directory := "/w" }
    let rearranged := tree.write ["w", "main.sol"] (Text.Utf8.encode swapped)
    (sourcesOf tree "/w" "main.sol" none).toOption.bind (Keyed.lookup? "pkg/b.sol") =
        some "contract Packaged \x7b\x7d\n" ∧
      (sourcesIn .firstFirst tree "/w" "main.sol" none).toOption.bind
        (Keyed.lookup? "pkg/b.sol") = some "contract Own \x7b\x7d\n" ∧
      Reorders tree ["w", "main.sol"] (Text.Utf8.encode swapped) swapped ∧
      (sourcesOf rearranged "/w" "main.sol" none).toOption.bind (Keyed.lookup? "pkg/b.sol") =
        some "contract Own \x7b\x7d\n" := by
  intro given swapped tree rearranged
  refine ⟨by decide +kernel, by decide +kernel, ⟨Text.Utf8.encode given, given, rfl, ?_⟩,
    by decide +kernel⟩
  decide +kernel

/-- **The sources of a file do not depend on the order in which imports are taken**, if chains of
imports that reach one name reach one file, for which it is enough that the name designates one. A
file whose directives stand in another order has a text of its own, but makes no difference to the
texts of other files and to the names. If moreover no name reaches both files that can be read and
ones that cannot, a search that returns in one order returns in all of them. -/
theorem sourcesOf_unordered (h : sourcesOf t cwd path base = .ok sources) :
    let tree := { t with directory := cwd }
    let main := mainUnit cwd path
    let dir := base.getD (Path.parent main.name)
    ((∀ dir ∈ base, Path.isAbsolute dir) →
      (∀ text ∈ t.texts, ∀ p ∈ importPaths text,
        p.startsWith "." ∨ ¬ p.endsWith "/" ∧ ¬ p.endsWith "/.") →
      Unshadowed tree dir main → OneFile tree dir main) ∧
    (OneFile tree dir main →
      (∀ order result, sourcesIn order t cwd path base = .ok result → result.Perm sources) ∧
      (∀ place new text', Reorders tree place new text' →
        ∀ order result, sourcesIn order (t.write place new) cwd path base = .ok result →
          (Keyed.keys result).Perm (Keyed.keys sources) ∧
          ∀ name text, (name, text) ∈ sources → ∃ u, Reached tree dir main u ∧ u.name = name ∧
            tree.read u.file = .ok text ∧
            (name, if tree.place u.file = place then text' else text) ∈ result) ∧
      (OneFate tree dir main → ∀ order,
        (∃ result, sourcesIn order t cwd path base = .ok result) ∧
        ∀ place new text', Reorders tree place new text' →
          ∃ result, sourcesIn order (t.write place new) cwd path base = .ok result)) := by
  intro tree main dir
  refine ⟨fun hbase himports hunshadowed =>
    oneFile_of_unshadowed (isAbsolute_baseDirectory hbase) himports hunshadowed, fun hone => ?_⟩
  rw [← sourcesIn_lastFirst] at h
  refine ⟨fun order result hresult => perm_of_sourcesIn h hresult hone,
    fun place new text' hreorders order result hresult => sourcesIn_write h hresult hone hreorders,
    fun hfate order => ?_⟩
  obtain ⟨opened, hvisits, -⟩ := visits_of_sourcesIn h
  have hsound := hvisits.sound hone hfate
  have hpath := hasNull_of_sourcesIn h
  refine ⟨hsound.exists_sources hpath order, fun place new text' hreorders => ?_⟩
  have hsound' : Sound (tree.write place new) dir main := hreorders.rearranged.sound hsound
  exact hsound'.exists_sources (t := t.write place new) hpath order

end

/-- A main file that leads to a file in two ways, and to a package. The last import may come first
or last, and the directives of the main file may be swapped. -/
theorem twofold_sources_unordered :
    let given := "import \"./lib/../a.sol\";\nimport \"./a.sol\";\n"
    let swapped := "import \"./a.sol\";\nimport \"./lib/../a.sol\";\n"
    let tree : FileTree :=
      { entries :=
          [(["w", "main.sol"], .file (Text.Utf8.encode given)), (["w", "lib"], .directory),
            (["w", "a.sol"], .file (Text.Utf8.encode "import 'pkg/c.sol';\n")),
            (["w", "node_modules", "pkg", "c.sol"],
              .file (Text.Utf8.encode "contract C \x7b\x7d\n"))]
        directory := "/w" }
    let rearranged := tree.write ["w", "main.sol"] (Text.Utf8.encode swapped)
    ∃ sources result others,
      sourcesOf tree "/w" "main.sol" none = .ok sources ∧
      Keyed.keys sources = ["/w/main.sol", "/w/a.sol", "pkg/c.sol"] ∧
      sourcesIn .firstFirst tree "/w" "main.sol" none = .ok result ∧ result.Perm sources ∧
      sourcesIn .firstFirst rearranged "/w" "main.sol" none = .ok others ∧
      (Keyed.keys others).Perm (Keyed.keys sources) := by
  intro given swapped tree rearranged
  have hkeys : (sourcesOf tree "/w" "main.sol" none).toOption.map Keyed.keys =
      some ["/w/main.sol", "/w/a.sol", "pkg/c.sol"] := by decide +kernel
  let units : List SourceUnit :=
    [⟨"/w/main.sol", "/w/main.sol"⟩, ⟨"/w/a.sol", "/w/lib/../a.sol"⟩, ⟨"/w/a.sol", "/w/a.sol"⟩,
      ⟨"pkg/c.sol", "/w/node_modules/pkg/c.sol"⟩]
  have hclosed : closedUnits tree (Path.parent (mainUnit "/w" "main.sol").name) units := by
    decide +kernel
  have hmain : mainUnit "/w" "main.sol" ∈ units := by decide +kernel
  have hnames : ∀ u ∈ units, ¬ Path.isAbsolute u.name →
      ¬ (tree.read (Path.normal (Path.joined (Path.parent (mainUnit "/w" "main.sol").name)
        u.name))).toOption.isSome := by decide +kernel
  have himports : ∀ text ∈ tree.texts, ∀ p ∈ importPaths text,
      p.startsWith "." ∨ ¬ p.endsWith "/" ∧ ¬ p.endsWith "/." := by decide +kernel
  have hreadable : ∀ u ∈ units, (tree.read u.file).toOption.isSome := by decide +kernel
  have hreorders : Reorders tree ["w", "main.sol"] (Text.Utf8.encode swapped) swapped :=
    ⟨Text.Utf8.encode given, given, rfl, by decide +kernel⟩
  cases h : sourcesOf tree "/w" "main.sol" none with
  | error e =>
    rw [h] at hkeys
    cases hkeys
  | ok sources =>
    rw [h] at hkeys
    obtain ⟨hdesignates, hunordered⟩ := sourcesOf_unordered h
    have hunshadowed : Unshadowed tree (Path.parent (mainUnit "/w" "main.sol").name)
        (mainUnit "/w" "main.sol") := by
      intro u _ _ hu hname hread _
      have hnone := hnames u (hu.mem hclosed hmain) hname
      rw [hread] at hnone
      exact absurd rfl hnone
    have hone := hdesignates nofun himports hunshadowed
    obtain ⟨hsame, hother, hreturns⟩ := hunordered hone
    have hfate : OneFate tree (Path.parent (mainUnit "/w" "main.sol").name)
        (mainUnit "/w" "main.sol") := by
      intro u v _ _ hv _ _
      have hv := hreadable v (hv.mem hclosed hmain)
      cases hread : tree.read v.file with
      | error e =>
        rw [hread] at hv
        cases hv
      | ok text => exact ⟨text, rfl⟩
    obtain ⟨⟨result, hresult⟩, hwritten⟩ := hreturns hfate .firstFirst
    obtain ⟨others, hothers⟩ := hwritten _ _ _ hreorders
    exact ⟨sources, result, others, rfl, Option.some.inj hkeys, hresult, hsame _ _ hresult, hothers,
      (hother _ _ _ hreorders _ _ hothers).1⟩

end ContractAudit.Solidity
