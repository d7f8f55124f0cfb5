/-
  What the operations on paths do to roots and components.

  * A path is settled by its `root` and its `parts`, each of which names something or leads up
    (`IsComponent`): a path that is made of a root and components has these (`root_ofParts`,
    `parts_ofParts`).  The root depends on the number of slashes at the start only (`root_eq`).
  * `parts_…` and `root_…` say what `joined`, `under`, `parent` and `directory` do to the two.
  * `parts_eq_directory`: a directory has all parts but what stands behind the last slash, which is
    the last part if it names something (`parts_of_noSlash`).
-/
import Mathlib.Data.List.Basic
import Mathlib.Data.List.Induction
import Mathlib.Data.List.TakeWhile
import ContractAudit.Path.Basic

namespace ContractAudit.Path

/-! ## Components -/

/-- A component that names something, or leads up. -/
structure IsComponent (c : String) : Prop where
  ne_empty : c ≠ ""
  ne_dot : c ≠ "."
  noSlash : '/' ∉ c.toList

theorem components_append (a b : List Char) :
    components (String.ofList (a ++ '/' :: b)) =
      components (String.ofList a) ++ components (String.ofList b) := by
  simp only [components, String.toList_ofList, List.splitOn_append_cons_self, List.map_append]

theorem parts_append (a b : List Char) :
    parts (String.ofList (a ++ '/' :: b)) =
      parts (String.ofList a) ++ parts (String.ofList b) := by
  rw [parts, components_append, List.filter_append]
  rfl

theorem parts_of_noSlash {c : List Char} (h : '/' ∉ c) :
    parts (String.ofList c) =
      if String.ofList c = "" ∨ String.ofList c = "." then [] else [String.ofList c] := by
  rw [parts, components, String.toList_ofList, List.splitOn_eq_singleton h]
  by_cases he : String.ofList c = "" <;> by_cases hd : String.ofList c = "." <;> simp [he, hd]

@[simp] theorem parts_empty : parts "" = [] := rfl

theorem notMem_of_mem_splitOn {α : Type} [BEq α] [LawfulBEq α] {a : α} {xs : List α} :
    ∀ l ∈ xs.splitOn a, a ∉ l := by
  induction xs with
  | nil => simp [List.splitOn_nil]
  | cons x xs ih =>
    rw [List.splitOn_cons_eq_if_modifyHead]
    split
    · exact List.forall_mem_cons.2 ⟨by simp, ih⟩
    · next hx =>
      cases hs : xs.splitOn a with
      | nil => exact absurd hs (List.splitOn_ne_nil a xs)
      | cons head rest =>
        rw [hs] at ih
        obtain ⟨hhead, hrest⟩ := List.forall_mem_cons.1 ih
        refine List.forall_mem_cons.2 ⟨?_, hrest⟩
        rw [List.mem_cons, not_or]
        exact ⟨fun h => hx (h ▸ beq_self_eq_true a), hhead⟩

theorem isComponent_of_mem_parts {p c : String} (h : c ∈ parts p) : IsComponent c := by
  obtain ⟨hmem, hne⟩ := List.mem_filter.1 h
  obtain ⟨l, hl, rfl⟩ := List.mem_map.1 hmem
  simp only [bne_iff_ne, Bool.and_eq_true, ne_eq] at hne
  exact ⟨hne.1, hne.2, by simpa using notMem_of_mem_splitOn l hl⟩

/-- Components are the parts of the path that they make. -/
theorem parts_joined {ps : List String} (h : ∀ c ∈ ps, IsComponent c) :
    parts (Text.joined "/" ps) = ps := by
  induction ps with
  | nil => rfl
  | cons c ps ih =>
    obtain ⟨hc, hps⟩ := List.forall_mem_cons.1 h
    have hown : parts c = [c] := by
      have := parts_of_noSlash hc.noSlash
      simpa [hc.ne_empty, hc.ne_dot] using this
    cases ps with
    | nil => simpa [Text.joined] using hown
    | cons d ps =>
      have : Text.joined "/" (c :: d :: ps) =
          String.ofList (c.toList ++ '/' :: (Text.joined "/" (d :: ps)).toList) := by
        rw [← String.toList_inj]
        simp [Text.joined, String.intercalate_cons_cons]
      rw [this, parts_append, String.ofList_toList, String.ofList_toList, ih hps, hown]
      rfl

/-! ## Roots -/

/-- The number of slashes at the start of a text. -/
def lead (s : List Char) : Nat :=
  (s.takeWhile (· == '/')).length

@[simp] theorem lead_nil : lead [] = 0 := rfl

@[simp] theorem lead_slash (s : List Char) : lead ('/' :: s) = lead s + 1 := by
  simp [lead]

theorem lead_of_ne {c : Char} (hc : c ≠ '/') (s : List Char) : lead (c :: s) = 0 := by
  simp [lead, hc]

theorem lead_append (a b : List Char) :
    lead (a ++ b) = if a.all (· == '/') then a.length + lead b else lead a := by
  induction a with
  | nil => simp
  | cons c a ih =>
    by_cases hc : c = '/'
    · subst hc
      simp only [List.cons_append, lead_slash, ih, List.all_cons, beq_self_eq_true, Bool.true_and,
        List.length_cons]
      split <;> omega
    · simp [lead_of_ne hc, hc]

theorem lead_of_all {s : List Char} (h : s.all (· == '/')) : lead s = s.length := by
  simpa [h] using lead_append s []

theorem lead_of_noSlash {s : List Char} (h : '/' ∉ s) : lead s = 0 := by
  cases s with
  | nil => rfl
  | cons c s => exact lead_of_ne (fun e => h (e ▸ List.mem_cons_self)) s

theorem replicate_prefix_iff (n : Nat) (s : List Char) :
    List.replicate n '/' <+: s ↔ n ≤ lead s := by
  induction n generalizing s with
  | zero => simp
  | succ n ih =>
    cases s with
    | nil => simp
    | cons c s =>
      rw [List.replicate_succ, List.cons_prefix_cons]
      by_cases hc : c = '/'
      · subst hc
        simp [ih]
      · simp [lead_of_ne hc, Ne.symm hc]

theorem isAbsolute_eq (p : String) : isAbsolute p = decide (0 < lead p.toList) := by
  rw [isAbsolute, Bool.eq_iff_iff, String.startsWith_string_iff, decide_eq_true_eq]
  exact replicate_prefix_iff 1 _

theorem root_eq (p : String) :
    root p = if lead p.toList = 0 then "" else if lead p.toList = 2 then "//" else "/" := by
  have h₂ : p.startsWith "//" = decide (2 ≤ lead p.toList) := by
    rw [Bool.eq_iff_iff, String.startsWith_string_iff, decide_eq_true_eq]
    exact replicate_prefix_iff 2 _
  have h₃ : p.startsWith "///" = decide (3 ≤ lead p.toList) := by
    rw [Bool.eq_iff_iff, String.startsWith_string_iff, decide_eq_true_eq]
    exact replicate_prefix_iff 3 _
  rw [root, isAbsolute_eq, h₂, h₃]
  generalize lead p.toList = n
  rcases n with _ | _ | _ | n <;> simp

theorem isAbsolute_iff {p : String} : isAbsolute p = true ↔ root p ≠ "" := by
  rw [isAbsolute_eq, root_eq, decide_eq_true_eq]
  split
  · simp_all
  · split <;> simp <;> omega

theorem root_eq_empty {p : String} (h : ¬ isAbsolute p) : root p = "" :=
  not_not.1 fun hne => h (isAbsolute_iff.2 hne)

/-- One of the roots of paths. -/
def IsRoot (r : String) : Prop :=
  r = "" ∨ r = "/" ∨ r = "//"

theorem isRoot_root (p : String) : IsRoot (root p) := by
  rw [root_eq]
  split
  · exact .inl rfl
  · split
    · exact .inr (.inr rfl)
    · exact .inr (.inl rfl)

/-! ## Paths of components -/

theorem lead_joined {ps : List String} (h : ∀ c ∈ ps, IsComponent c) :
    lead (Text.joined "/" ps).toList = 0 := by
  cases ps with
  | nil => rfl
  | cons c ps =>
    have hc := h c List.mem_cons_self
    obtain ⟨d, s, hs⟩ : ∃ d s, c.toList = d :: s :=
      List.exists_cons_of_ne_nil (by simpa using hc.ne_empty)
    have hd : d ≠ '/' := fun e => hc.noSlash (by rw [hs, e]; exact List.mem_cons_self)
    cases ps with
    | nil => simpa [Text.joined, hs] using lead_of_ne hd s
    | cons e ps => simpa [Text.joined, String.intercalate_cons_cons, hs] using lead_of_ne hd _

section
variable {r : String} {ps : List String}

/-- The parts of a path that is made of components. -/
theorem parts_ofParts (hr : IsRoot r) (h : ∀ c ∈ ps, IsComponent c) :
    parts (ofParts r ps) = ps := by
  have hjoined := parts_joined h
  have hslash (s : String) : parts ("/" ++ s) = parts s := by
    simpa [parts_empty] using parts_append [] s.toList
  rcases hr with rfl | rfl | rfl
  · cases ps with
    | nil => rfl
    | cons c ps => simpa [ofParts] using hjoined
  · rw [ofParts, if_neg (by simp), hslash, hjoined]
  · rw [ofParts, if_neg (by simp), show ("//" : String) = "/" ++ "/" from rfl, String.append_assoc,
      hslash, hslash, hjoined]

theorem root_ofParts (hr : IsRoot r) (h : ∀ c ∈ ps, IsComponent c) :
    root (ofParts r ps) = r := by
  have hlead := lead_joined h
  rw [root_eq]
  rcases hr with rfl | rfl | rfl
  · cases ps with
    | nil => rfl
    | cons c ps => simp [ofParts, hlead]
  · simp [ofParts, hlead]
  · simp [ofParts, hlead]

end

theorem isComponent_parts (p : String) : ∀ c ∈ parts p, IsComponent c :=
  fun _ => isComponent_of_mem_parts

/-! ## Joined paths -/

section
variable {d p : String}

theorem lead_eq_zero (hp : ¬ isAbsolute p) : lead p.toList = 0 := by
  simpa [isAbsolute_eq] using hp

theorem endsWith_slash (d : String) : d.endsWith "/" = true ↔ ['/'] <:+ d.toList := by
  rw [← String.endsWith_toSlice, String.Slice.endsWith_string_iff, String.copy_toSlice]
  rfl

/-- The parts of a relative path come after those of the directory. -/
theorem parts_joinedPath (hp : ¬ isAbsolute p) : parts (joined d p) = parts d ++ parts p := by
  rw [joined, if_neg hp]
  split
  · next h =>
    rcases h with rfl | h
    · simp [parts, components]
    · obtain ⟨s, hs⟩ := (endsWith_slash d).1 h
      have hd : d = String.ofList (s ++ '/' :: []) := by rw [hs, String.ofList_toList]
      have hdp : d ++ p = String.ofList (s ++ '/' :: p.toList) := by
        rw [← String.toList_inj, String.toList_append, ← hs]
        simp
      rw [hdp, parts_append, hd, parts_append, String.ofList_toList]
      simp [parts, components]
  · have : d ++ "/" ++ p = String.ofList (d.toList ++ '/' :: p.toList) := by
      rw [← String.toList_inj]
      simp
    rw [this, parts_append, String.ofList_toList, String.ofList_toList]

theorem root_joinedPath (hp : ¬ isAbsolute p) : root (joined d p) = root d := by
  have hlead : lead (joined d p).toList = lead d.toList := by
    have hzero := lead_eq_zero hp
    rw [joined, if_neg hp]
    split
    · rw [String.toList_append, lead_append, hzero]
      split
      · next hall => rw [lead_of_all hall, Nat.add_zero]
      · rfl
    · next h =>
      -- the directory does not end with a slash, so that not all of it is slashes
      have hall : ¬ d.toList.all (· == '/') := fun hall => h (by
        rw [endsWith_slash, ← String.toList_eq_nil_iff]
        rcases List.eq_nil_or_concat d.toList with hnil | ⟨s, c, hs⟩
        · exact .inl hnil
        · rw [hs] at hall ⊢
          have hc : c = '/' := by simpa using (List.all_eq_true.1 hall) c (by simp)
          exact .inr ⟨s, by rw [hc, List.concat_eq_append]⟩)
      rw [String.toList_append, String.toList_append, List.append_assoc, lead_append, if_neg hall]
  rw [root_eq, root_eq, hlead]

end

/-! ## Tidy paths -/

section
variable {d p : String}

@[simp] theorem parts_tidy (p : String) : parts (tidy p) = parts p :=
  parts_ofParts (isRoot_root p) (isComponent_parts p)

@[simp] theorem root_tidy (p : String) : root (tidy p) = root p :=
  root_ofParts (isRoot_root p) (isComponent_parts p)

theorem isComponent_parent (p : String) : ∀ c ∈ (parts p).dropLast, IsComponent c :=
  fun c hc => isComponent_parts p c ((List.dropLast_sublist _).subset hc)

@[simp] theorem parts_parent (p : String) : parts (parent p) = (parts p).dropLast :=
  parts_ofParts (isRoot_root p) (isComponent_parent p)

@[simp] theorem root_parent (p : String) : root (parent p) = root p :=
  root_ofParts (isRoot_root p) (isComponent_parent p)

theorem isComponent_under (d p : String) : ∀ c ∈ parts d ++ parts p, IsComponent c :=
  List.forall_mem_append.2 ⟨isComponent_parts d, isComponent_parts p⟩

theorem under_eq (hp : ¬ isAbsolute p) : under d p = ofParts (root d) (parts d ++ parts p) :=
  if_neg hp

theorem under_of_isAbsolute (hp : isAbsolute p) : under d p = tidy p :=
  if_pos hp

theorem parts_under (hp : ¬ isAbsolute p) : parts (under d p) = parts d ++ parts p := by
  rw [under_eq hp, parts_ofParts (isRoot_root d) (isComponent_under d p)]

theorem root_under (hp : ¬ isAbsolute p) : root (under d p) = root d := by
  rw [under_eq hp, root_ofParts (isRoot_root d) (isComponent_under d p)]

end

/-! ## Directories -/

/-- What stands behind the last slash. -/
def fileName (p : String) : String :=
  String.ofList (p.toList.reverse.takeWhile (· != '/')).reverse

/-- A path is what stands up to its last slash, and what stands behind it. -/
theorem exists_fileName (p : String) :
    ∃ g, p.toList = g ++ (fileName p).toList ∧
      g = (p.toList.reverse.dropWhile (· != '/')).reverse ∧ (g = [] ∨ ∃ h, g = h ++ ['/']) := by
  refine ⟨_, ?_, rfl, ?_⟩
  · rw [fileName, String.toList_ofList, ← List.reverse_append, List.takeWhile_append_dropWhile,
      List.reverse_reverse]
  · cases h : p.toList.reverse.dropWhile (· != '/') with
    | nil => exact .inl rfl
    | cons c s =>
      have hc : c = '/' := by
        have := List.head?_dropWhile_not (· != '/') p.toList.reverse
        simpa [h] using this
      exact .inr ⟨s.reverse, by rw [hc, List.reverse_cons]⟩

theorem fileName_noSlash (p : String) : '/' ∉ (fileName p).toList := by
  rw [fileName, String.toList_ofList, List.mem_reverse]
  intro h
  simpa using List.mem_takeWhile_imp h

/-- Slashes at the end of a path make no difference to its parts. -/
theorem parts_trimmed (s : List Char) :
    parts (String.ofList (s.reverse.dropWhile (· == '/')).reverse) = parts (String.ofList s) := by
  induction s using List.reverseRecOn with
  | nil => rfl
  | append_singleton s c ih =>
    rw [List.reverse_append, List.reverse_singleton, List.singleton_append]
    by_cases hc : c = '/'
    · subst hc
      rw [List.dropWhile_cons_of_pos (by simp), ih, parts_append]
      simp
    · rw [List.dropWhile_cons_of_neg (by simpa using hc), List.reverse_cons, List.reverse_reverse]

theorem lead_trimmed {s : List Char} (h : ¬ s.all (· == '/')) :
    lead (s.reverse.dropWhile (· == '/')).reverse = lead s := by
  induction s using List.reverseRecOn with
  | nil => rfl
  | append_singleton s c ih =>
    rw [List.reverse_append, List.reverse_singleton, List.singleton_append]
    by_cases hc : c = '/'
    · subst hc
      have hs : ¬ s.all (· == '/') := by simpa using h
      rw [List.dropWhile_cons_of_pos (by simp), ih hs, lead_append, if_neg hs]
    · rw [List.dropWhile_cons_of_neg (by simpa using hc), List.reverse_cons, List.reverse_reverse]

section
variable (p : String)

/-- The parts of a path are those of its directory, and what stands behind the last slash. -/
theorem parts_eq_directory : parts p = parts (directory p) ++ parts (fileName p) := by
  obtain ⟨g, hp, hg, hend⟩ := exists_fileName p
  have hdirectory : parts (directory p) = parts (String.ofList g) := by
    simp only [directory, ← hg]
    split
    · rfl
    · exact parts_trimmed g
  rw [hdirectory]
  nth_rewrite 1 [← String.ofList_toList (s := p)]
  rw [hp]
  rcases hend with rfl | ⟨h, rfl⟩
  · simp
  · rw [List.append_assoc, List.singleton_append, parts_append, parts_append, String.ofList_toList]
    simp

@[simp] theorem root_directory : root (directory p) = root p := by
  obtain ⟨g, hp, hg, hend⟩ := exists_fileName p
  have hname : lead (fileName p).toList = 0 := lead_of_noSlash (fileName_noSlash p)
  have hlead : lead (directory p).toList = lead p.toList := by
    rw [hp, lead_append, hname]
    simp only [directory, ← hg]
    split
    · next hall => rw [String.toList_ofList, lead_of_all hall, Nat.add_zero]
    · next hall => rw [String.toList_ofList, lead_trimmed hall]
  rw [root_eq, root_eq, hlead]

end

theorem fileName_eq {p : String} {g : List Char} {c : String} (hc : '/' ∉ c.toList)
    (hp : p.toList = g ++ c.toList) (hg : g = [] ∨ ∃ h, g = h ++ ['/']) : fileName p = c := by
  rw [fileName, hp, List.reverse_append, List.takeWhile_append_of_pos fun d hd => ?_]
  · rcases hg with rfl | ⟨h, rfl⟩ <;> simp
  · have : d ≠ '/' := fun e => hc (by simpa [e] using hd)
    simpa using this

end ContractAudit.Path
