/-
  Settled components and normal paths.

  * Settling goes from the left to the right (`settle_append`), and what is settled already settles
    to the same (`settle_settle`): a path may be settled in pieces, as long as only pieces without a
    root are settled on their own.
  * Settling without a root leaves the components that lead up in front (`settle_eq_replicate`);
    with a root it only drops components (`settle_sublist`), so that a normal path is no longer
    than the path it comes from (`normal_sublist`).
  * `normal_congr` and `normal_joined`: normal paths by roots and parts.
-/
import Mathlib.Data.List.Flatten
import Mathlib.Data.String.Basic
import ContractAudit.Proofs.Path.Components

namespace ContractAudit.Path

/-! ## Settling -/

section
variable (isRooted : Bool) (acc : List String)

theorem settle_up_nil (rest : List String) :
    settle isRooted [] (".." :: rest) = settle isRooted (if isRooted then [] else [".."]) rest := by
  rw [settle, if_pos rfl]

theorem settle_up_up (rest : List String) :
    settle isRooted (".." :: acc) (".." :: rest) = settle isRooted (".." :: ".." :: acc) rest := by
  rw [settle, if_pos rfl]
  simp

theorem settle_up_of_ne {d : String} (hd : d ≠ "..") (rest : List String) :
    settle isRooted (d :: acc) (".." :: rest) = settle isRooted acc rest := by
  rw [settle, if_pos rfl]
  simp [hd]

theorem settle_of_ne {c : String} (hc : c ≠ "..") (rest : List String) :
    settle isRooted acc (c :: rest) = settle isRooted (c :: acc) rest := by
  simp only [settle, if_neg hc]

/-- Settling goes from the left to the right. -/
theorem settle_append (xs ys : List String) :
    settle isRooted acc (xs ++ ys) = settle isRooted (settle isRooted acc xs).reverse ys := by
  fun_induction settle isRooted acc xs with
  | case1 acc => simp
  | case2 rest ih => rw [List.cons_append, settle_up_nil, ih]
  | case3 rest acc ih => rw [List.cons_append, settle_up_up, ih]
  | case4 rest d acc hd ih => rw [List.cons_append, settle_up_of_ne _ _ hd, ih]
  | case5 acc c rest hc ih => rw [List.cons_append, settle_of_ne _ _ hc, ih]

theorem settle_concat {c : String} (hc : c ≠ "..") (ps : List String) :
    settle isRooted acc (ps ++ [c]) = settle isRooted acc ps ++ [c] := by
  rw [settle_append, settle_of_ne _ _ hc]
  simp [settle]

/-- **A part that is settled already settles to the same.** An absolute path may only be settled
again at the root. -/
theorem settle_settle {wasRooted : Bool} (before : List String) (ps : List String)
    (h : wasRooted = true → isRooted = true ∧ acc = []) :
    settle isRooted acc (settle wasRooted before ps) =
      settle isRooted acc (before.reverse ++ ps) := by
  fun_induction settle wasRooted before ps with
  | case1 before => simp
  | case2 rest ih =>
    cases wasRooted with
    | false => simpa using ih
    | true =>
      obtain ⟨rfl, rfl⟩ := h rfl
      rw [ih]
      simp [settle_up_nil]
  | case3 rest before ih => simpa using ih
  | case4 rest d before hd ih =>
    rw [ih, List.reverse_cons, List.append_assoc, List.singleton_append, settle_append,
      settle_append, settle_of_ne _ _ hd, settle_up_of_ne _ _ hd]
  | case5 before c rest hc ih => simpa using ih

theorem settle_settle_append (isRooted : Bool) (xs ys : List String) :
    settle isRooted [] (settle isRooted [] xs ++ ys) = settle isRooted [] (xs ++ ys) := by
  rw [settle_append, settle_settle _ _ _ _ fun h => ⟨h, rfl⟩, List.reverse_nil, List.nil_append,
    settle_append]

theorem mem_settle {c : String} {ps : List String} (h : c ∈ settle isRooted acc ps) :
    c ∈ acc ∨ c ∈ ps := by
  fun_induction settle isRooted acc ps with
  | case1 acc => exact .inl (List.mem_reverse.1 h)
  | case2 rest ih =>
    rcases ih h with h | h
    · right
      cases isRooted with
      | false => simp_all
      | true => cases h
    · exact .inr (List.mem_cons_of_mem _ h)
  | case3 rest acc ih => simpa [or_assoc, or_comm, or_left_comm] using ih h
  | case4 rest d acc hd ih =>
    exact (ih h).imp (List.mem_cons_of_mem _) (List.mem_cons_of_mem _)
  | case5 acc c' rest hc ih => simpa [or_assoc, or_comm, or_left_comm] using ih h

end

theorem settle_of_notMem {ps : List String} (h : ".." ∉ ps) (isRooted : Bool) (acc : List String) :
    settle isRooted acc ps = acc.reverse ++ ps := by
  induction ps generalizing acc with
  | nil => simp [settle]
  | cons c ps ih =>
    rw [List.mem_cons, not_or] at h
    rw [settle_of_ne _ _ (Ne.symm h.1), ih h.2]
    simp

/-- Without a root, what leads up stands in front once it is settled. `ups` components lead up
before those in `downs`. -/
theorem settle_eq_replicate (ps : List String) (ups : Nat) (downs : List String)
    (hdowns : ".." ∉ downs) :
    ∃ k qs, settle false (downs.reverse ++ List.replicate ups "..") ps =
        List.replicate k ".." ++ qs ∧ ".." ∉ qs ∧
      k + qs.length ≤ ups + downs.length + ps.length := by
  induction ps generalizing ups downs with
  | nil => exact ⟨ups, downs, by simp [settle], hdowns, by simp⟩
  | cons c ps ih =>
    by_cases hc : c = ".."
    · subst hc
      rcases List.eq_nil_or_concat downs with rfl | ⟨ds, d, rfl⟩
      · -- nothing is left to be undone, and one more component leads up
        obtain ⟨k, qs, heq, hqs, hle⟩ := ih (ups + 1) [] hdowns
        refine ⟨k, qs, ?_, hqs, by simp only [List.length_nil, List.length_cons] at hle ⊢; omega⟩
        rw [← heq]
        cases ups with
        | zero => exact settle_up_nil false ps
        | succ ups => exact settle_up_up false _ ps
      · have hd : d ≠ ".." := fun e => hdowns (by simp [e])
        obtain ⟨k, qs, heq, hqs, hle⟩ := ih ups ds fun hm => hdowns (by simp [hm])
        refine ⟨k, qs, ?_, hqs, by simp only [List.concat_eq_append, List.length_append,
          List.length_cons, List.length_nil] at hle ⊢; omega⟩
        rw [← heq, List.concat_eq_append, List.reverse_append, List.reverse_singleton,
          List.append_assoc, List.singleton_append, settle_up_of_ne _ _ hd]
    · obtain ⟨k, qs, heq, hqs, hle⟩ := ih ups (downs ++ [c])
        (by simp [hdowns, Ne.symm hc])
      refine ⟨k, qs, ?_, hqs, by simp only [List.length_append, List.length_cons,
          List.length_nil] at hle ⊢; omega⟩
      rw [← heq, settle_of_ne _ _ hc]
      simp

/-- An absolute path keeps some of its components. -/
theorem settle_sublist (acc ps : List String) :
    (settle true acc ps).Sublist (acc.reverse ++ ps) := by
  fun_induction settle true acc ps with
  | case1 acc => simp
  | case2 rest ih => exact ih.trans (List.sublist_cons_self _ _)
  | case3 rest acc ih => simpa using ih
  | case4 rest d acc hd ih =>
    have hdropped : rest.Sublist (d :: ".." :: rest) :=
      (List.sublist_cons_self _ _).trans (List.sublist_cons_self _ _)
    rw [List.reverse_cons, List.append_assoc]
    exact ih.trans (hdropped.append_left _)
  | case5 acc c rest hc ih => simpa using ih

/-! ## Normal paths -/

theorem isComponent_settle {isRooted : Bool} {ps : List String} (h : ∀ c ∈ ps, IsComponent c) :
    ∀ c ∈ settle isRooted [] ps, IsComponent c :=
  fun c hc => (mem_settle _ _ hc).elim nofun (h c)

section
variable (p : String)

@[simp] theorem root_normal : root (normal p) = root p :=
  root_ofParts (isRoot_root p) (isComponent_settle (isComponent_parts p))

@[simp] theorem parts_normal : parts (normal p) = settle (isAbsolute p) [] (parts p) :=
  parts_ofParts (isRoot_root p) (isComponent_settle (isComponent_parts p))

end

theorem isAbsolute_congr {p q : String} (h : root p = root q) : isAbsolute p = isAbsolute q := by
  rw [Bool.eq_iff_iff, isAbsolute_iff, isAbsolute_iff, h]

theorem normal_congr {p q : String} (hroot : root p = root q)
    (hparts : settle (isAbsolute p) [] (parts p) = settle (isAbsolute p) [] (parts q)) :
    normal p = normal q := by
  rw [normal, normal, hparts, hroot, isAbsolute_congr hroot]

theorem normal_normal (p : String) : normal (normal p) = normal p := by
  refine normal_congr (root_normal p) ?_
  rw [isAbsolute_congr (root_normal p), parts_normal]
  simpa using settle_settle_append (isAbsolute p) (parts p) []

theorem normal_tidy (p : String) : normal (tidy p) = normal p :=
  normal_congr (root_tidy p) (by rw [parts_tidy])

/-- It does not matter to the normal form how a path is put behind a directory. -/
theorem normal_under {d p : String} (hp : ¬ isAbsolute p) :
    normal (under d p) = normal (joined d p) :=
  normal_congr ((root_under hp).trans (root_joinedPath hp).symm)
    (by rw [parts_under hp, parts_joinedPath hp])

theorem normal_joined {d p : String} (hp : ¬ isAbsolute p) :
    normal (joined d p) = ofParts (root d) (settle (isAbsolute d) [] (parts d ++ parts p)) := by
  rw [normal, root_joinedPath hp, parts_joinedPath hp, isAbsolute_congr (root_joinedPath hp)]

theorem not_isAbsolute_normal {p : String} (hp : ¬ isAbsolute p) : ¬ isAbsolute (normal p) := by
  rwa [isAbsolute_congr (root_normal p)]

theorem normal_joined_normal {d p : String} (hp : ¬ isAbsolute p) :
    normal (joined d (normal p)) = normal (joined d p) := by
  rw [normal_joined (not_isAbsolute_normal hp), normal_joined hp, parts_normal, settle_append,
    settle_settle _ _ _ _ fun h => absurd h hp, List.reverse_nil, List.nil_append, ← settle_append]

/-- The directory of a path of components has all of them but the last one. -/
theorem parts_directory_ofParts {r : String} {ps : List String} {c : String} (hr : IsRoot r)
    (h : ∀ d ∈ ps ++ [c], IsComponent d) : parts (directory (ofParts r (ps ++ [c]))) = ps := by
  obtain ⟨-, hc⟩ := List.forall_mem_append.1 h
  replace hc : IsComponent c := hc c (List.mem_singleton_self c)
  have hname : fileName (ofParts r (ps ++ [c])) = c := by
    by_cases hps : ps = []
    · subst hps
      refine fileName_eq (g := r.toList) hc.noSlash (by simp [ofParts, Text.joined]) ?_
      rcases hr with rfl | rfl | rfl
      · exact .inl rfl
      · exact .inr ⟨[], rfl⟩
      · exact .inr ⟨['/'], rfl⟩
    · refine fileName_eq (g := r.toList ++ (Text.joined "/" ps).toList ++ ['/']) hc.noSlash ?_
        (.inr ⟨_, rfl⟩)
      rw [ofParts, if_neg (by simp), Text.joined,
        String.intercalate_append_of_ne_nil hps (List.cons_ne_nil c [])]
      simp [Text.joined]
  have hown : parts c = [c] := by
    simpa [hc.ne_empty, hc.ne_dot] using parts_of_noSlash hc.noSlash
  have := parts_eq_directory (ofParts r (ps ++ [c]))
  rw [parts_ofParts hr h, hname, hown] at this
  exact (List.append_cancel_right this).symm

/-- **The way to a file and on from its directory is one way.** -/
theorem normal_joined_directory {d p q : String} {ps : List String} {c : String}
    (hp : ¬ isAbsolute p) (hq : ¬ isAbsolute q) (hparts : parts p = ps ++ [c]) (hc : c ≠ "..") :
    normal (joined (directory (normal (joined d p))) q) =
      normal (joined d (under (parent p) q)) := by
  have hr : ¬ isAbsolute (under (parent p) q) := by
    rwa [isAbsolute_congr (root_under hq), isAbsolute_congr (root_parent p)]
  have hfirst : normal (joined d p) =
      ofParts (root d) (settle (isAbsolute d) [] (parts d ++ ps) ++ [c]) := by
    rw [normal_joined hp, hparts, ← List.append_assoc, settle_concat _ _ hc]
  have hcomponents : ∀ e ∈ settle (isAbsolute d) [] (parts d ++ ps) ++ [c], IsComponent e := by
    rw [← settle_concat _ _ hc, List.append_assoc, ← hparts]
    exact isComponent_settle (isComponent_under d p)
  have hroot : root (directory (normal (joined d p))) = root d := by
    rw [root_directory, hfirst, root_ofParts (isRoot_root d) hcomponents]
  have hdirectory : parts (directory (normal (joined d p))) =
      settle (isAbsolute d) [] (parts d ++ ps) := by
    rw [hfirst, parts_directory_ofParts (isRoot_root d) hcomponents]
  rw [normal_joined hq, normal_joined hr, hroot, isAbsolute_congr hroot, hdirectory,
    settle_settle_append, parts_under hq, parts_parent, hparts, List.dropLast_concat,
    List.append_assoc]

/-- The directory of a path that does not end in a slash, or in a slash and a dot, has all of its
parts but the last one. -/
theorem exists_parts_directory {p : String} (hempty : p ≠ "") (hdot : p ≠ ".")
    (hslash : ¬ p.endsWith "/") (hslashDot : ¬ p.endsWith "/.") :
    ∃ c, parts p = parts (directory p) ++ [c] := by
  obtain ⟨g, hp, -, hend⟩ := exists_fileName p
  have hname : fileName p ≠ "" := by
    intro e
    rw [e, String.toList_empty, List.append_nil] at hp
    rcases hend with rfl | ⟨h, rfl⟩
    · exact hempty (String.toList_eq_nil_iff.1 hp)
    · exact hslash ((endsWith_slash p).2 ⟨h, hp.symm⟩)
  have hname' : fileName p ≠ "." := by
    intro e
    rw [e] at hp
    rcases hend with rfl | ⟨h, rfl⟩
    · exact hdot (String.toList_inj.1 hp)
    · refine hslashDot ?_
      rw [← String.endsWith_toSlice, String.Slice.endsWith_string_iff, String.copy_toSlice]
      exact ⟨h, by rw [hp]; simp⟩
  refine ⟨fileName p, ?_⟩
  have hown := parts_of_noSlash (fileName_noSlash p)
  rw [String.ofList_toList] at hown
  rw [parts_eq_directory p, hown, if_neg (not_or.2 ⟨hname, hname'⟩)]

/-! ## Sizes -/

/-- Components with a slash before each. -/
def spread (ps : List String) : List Char :=
  ps.flatMap fun c => '/' :: c.toList

theorem cons_joined {ps : List String} (h : ps ≠ []) :
    '/' :: (Text.joined "/" ps).toList = spread ps := by
  induction ps with
  | nil => exact absurd rfl h
  | cons c ps ih =>
    cases ps with
    | nil => simp [Text.joined, spread]
    | cons d ps =>
      have := ih (List.cons_ne_nil d ps)
      rw [Text.joined, String.intercalate_cons_cons, String.toList_append, String.toList_append,
        ← Text.joined, spread, List.flatMap_cons, ← spread, ← this]
      simp

theorem spread_components (p : String) : spread (components p) = '/' :: p.toList := by
  have hne : components p ≠ [] := by simp [components]
  have hsplit : (components p).map String.toList = p.toList.splitOn '/' := by simp [components]
  rw [← cons_joined hne, Text.joined, String.toList_intercalate, hsplit]
  congr 1
  exact List.intercalate_splitOn '/'

theorem spread_sublist {p : String} {ps : List String} (h : ps.Sublist (parts p)) :
    (spread ps).Sublist ('/' :: p.toList) := by
  rw [← spread_components]
  exact (h.trans List.filter_sublist).flatMap _

/-- A path without parts is empty, starts with a slash, or starts with a dot. -/
theorem parts_ne_nil {p : String} (hempty : p ≠ "") (hp : ¬ isAbsolute p)
    (hdot : ¬ p.startsWith ".") : parts p ≠ [] := by
  obtain ⟨head, rest, hcs⟩ : ∃ head rest, components p = head :: rest :=
    List.exists_cons_of_ne_nil (by simp [components])
  have hspread := spread_components p
  rw [hcs, spread, List.flatMap_cons, ← spread] at hspread
  have hp' : p.toList = head.toList ++ spread rest := (List.cons.inj hspread).2.symm
  have hne : head ≠ "" := by
    rintro rfl
    cases rest with
    | nil => exact hempty (String.toList_eq_nil_iff.1 hp')
    | cons c rest =>
      refine hp ?_
      rw [isAbsolute_eq, hp']
      simp [spread]
  have hne' : head ≠ "." := by
    rintro rfl
    refine hdot (String.startsWith_string_iff.2 ?_)
    rw [hp']
    exact List.prefix_append _ _
  rw [parts, hcs, List.filter_cons_of_pos (by simp [hne, hne'])]
  exact List.cons_ne_nil _ _

theorem length_le_utf8Len_spread (ps : List String) : ps.length ≤ String.utf8Len (spread ps) := by
  induction ps with
  | nil => simp
  | cons c ps ih =>
    rw [spread, List.flatMap_cons, ← spread, String.utf8Len_append, String.utf8Len_cons,
      List.length_cons]
    have := Char.utf8Size_pos '/'
    omega

theorem length_parts_le (p : String) : (parts p).length ≤ p.utf8ByteSize + 1 := by
  have h := String.utf8Len_le_of_sublist (spread_sublist (List.Sublist.refl (parts p)))
  rw [String.utf8Len_cons, String.utf8Len_toList] at h
  exact (length_le_utf8Len_spread _).trans h

theorem slash_joined_sublist {s : List Char} {ps : List String}
    (h : ps.Sublist (parts (String.ofList s))) :
    ('/' :: (Text.joined "/" ps).toList).Sublist ('/' :: s) := by
  by_cases hps : ps = []
  · simp [hps, Text.joined]
  · rw [cons_joined hps]
    simpa using spread_sublist h

/-- **A normal path is written in the path that it comes from**, if this has a root. -/
theorem normal_sublist {p : String} (hp : isAbsolute p) : (normal p).toList.Sublist p.toList := by
  have h : (settle true [] (parts p)).Sublist (parts p) := settle_sublist [] (parts p)
  have hlead : 0 < lead p.toList := by simpa [isAbsolute_eq] using hp
  have hparts (s : List Char) : parts (String.ofList ('/' :: s)) = parts (String.ofList s) := by
    simpa using parts_append [] s
  rw [normal, hp]
  -- the slashes of the root stand in front, and the parts behind them
  generalize settle true [] (parts p) = ps at h
  rw [← String.ofList_toList (s := p)] at h
  by_cases htwo : root p = "//"
  · obtain ⟨s, hs⟩ : ['/', '/'] <+: p.toList := (replicate_prefix_iff 2 p.toList).2 (by
      rw [root_eq] at htwo
      split at htwo <;> simp_all)
    rw [← hs] at h ⊢
    simp only [List.cons_append, List.nil_append, hparts] at h ⊢
    simpa [htwo, ofParts] using slash_joined_sublist h
  · obtain ⟨s, hs⟩ : ['/'] <+: p.toList := (replicate_prefix_iff 1 p.toList).2 hlead
    have hone : root p = "/" := by
      rcases isRoot_root p with hr | hr | hr
      · exact absurd hr (isAbsolute_iff.1 hp)
      · exact hr
      · exact absurd hr htwo
    rw [← hs] at h ⊢
    simp only [List.cons_append, List.nil_append, hparts] at h ⊢
    simpa [hone, ofParts] using slash_joined_sublist h

end ContractAudit.Path
