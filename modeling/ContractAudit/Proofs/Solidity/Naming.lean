/-
  The names of units and the files that hold them.

  * A unit is a seed, the main one or one that is imported as its name says, or is reached from a
    seed by relative imports.  A chain of relative imports is a single one (`relative_relative`),
    so that every unit of a run stems from a seed by at most one (`Stems`, `Stems.locate`).
  * `Designated base u`: the name of the unit `u` designates its file, as seen from the directory
    `base`.
  * `sourcesOf_designated`: every unit that is read holds the text of the file that its name
    designates.
-/
import ContractAudit.Proofs.Path.Follow
import ContractAudit.Proofs.Solidity.Closure

namespace ContractAudit.Solidity

open ContractAudit.Path

/-! ## Locating imports -/

/-- The unit that a relative import of `u` names. -/
def SourceUnit.relative (u : SourceUnit) (p : String) : SourceUnit :=
  { name := normal (joined (directory u.name) p), file := under (parent u.file) p }

section
variable {t : FileTree} {base p : String} {u v : SourceUnit}

theorem not_isAbsolute_packageFolder : ¬ isAbsolute packageFolder := by
  simp [isAbsolute_eq, packageFolder, lead]

theorem not_isAbsolute_of_dot (h : p.startsWith ".") : ¬ isAbsolute p := by
  rw [String.startsWith_string_iff] at h
  obtain ⟨s, hs⟩ := h
  rw [isAbsolute_eq, ← hs]
  simp [lead]

theorem locate_relative (h : p.startsWith ".") : locate t base u p = .ok (u.relative p) :=
  if_pos h

/-- An import that is not relative is found below the base directory, or in a package there. -/
theorem locate_verbatim (h : ¬ p.startsWith ".") (hv : locate t base u p = .ok v) :
    v.name = p ∧ ∃ dir, (dir = base ∨ dir = under base packageFolder) ∧ v.file = under dir p := by
  rw [locate, if_neg h] at hv
  simp only [bind, Except.bind] at hv
  split at hv
  · cases hv
  · split at hv
    · cases hv
      exact ⟨rfl, base, .inl rfl, rfl⟩
    · split at hv
      · cases hv
      · next isPackaged _ =>
        cases hv
        refine ⟨rfl, ?_⟩
        cases isPackaged
        · exact ⟨base, .inl rfl, rfl⟩
        · exact ⟨_, .inr rfl, rfl⟩

theorem ne_nil_of_directive? {s path rest : List Char} (h : directive? s = some (path, rest)) :
    path ≠ [] := by
  simp only [directive?, Option.bind_eq_bind, Option.bind_eq_some_iff, Prod.exists, Option.pure_def,
    Option.some.injEq, Prod.mk.injEq] at h
  obtain ⟨r₁, -, p, r₂, hquoted, r₃, -, rfl, -⟩ := h
  unfold quotedPath? at hquoted
  split at hquoted
  · simp only at hquoted
    split at hquoted
    · cases hquoted
    · next hne =>
      cases hquoted
      simp only [Bool.or_eq_true, not_or, List.isEmpty_iff] at hne
      exact hne.1.2
  · cases hquoted

theorem ne_empty_of_mem_importPaths {source : String} (h : p ∈ importPaths source) : p ≠ "" := by
  rw [importPaths] at h
  generalize source.toList = s at h
  fun_induction pathsFrom s with
  | case1 s path rest hdirective ih =>
    rcases List.mem_cons.1 h with rfl | h
    · simpa using ne_nil_of_directive? hdirective
    · split at h
      · next hnext => exact ih _ hnext h
      · cases h
  | case2 s _ next _ ih => exact ih h
  | case3 => cases h

end

/-! ## Chains of relative imports -/

section
variable {t : FileTree} {s : SourceUnit} {text text' p q : String}

/-- **A relative import of a relative import is a relative import.** The first path has to end in
what names a file. -/
theorem SourceUnit.relative_relative {ps : List String} {c : String} (hp : ¬ isAbsolute p)
    (hq : ¬ isAbsolute q) (hparts : parts p = ps ++ [c]) (hc : c ≠ "..") :
    (s.relative p).relative q = s.relative (under (parent p) q) := by
  have hr : ¬ isAbsolute (under (parent p) q) := by
    rwa [isAbsolute_congr (root_under hq), isAbsolute_congr (root_parent p)]
  have hfile : under (parent (under (parent s.file) p)) q =
      under (parent s.file) (under (parent p) q) := by
    rw [under_eq hq, under_eq hr, root_parent, root_under hp, parts_parent, parts_under hp,
      parts_under hq, hparts, ← List.append_assoc, List.dropLast_concat, parts_parent p, hparts,
      List.dropLast_concat, List.append_assoc]
  rw [SourceUnit.relative, SourceUnit.relative, SourceUnit.relative, SourceUnit.mk.injEq]
  exact ⟨normal_joined_directory hp hq hparts hc, hfile⟩

/-- A relative import that can be read ends in what names its file, as the directory of the file
that it is seen from cannot be read. -/
theorem SourceUnit.exists_parts_of_read (hs : t.read s.file = .ok text) (hne : parts s.file ≠ [])
    (hp : ¬ isAbsolute p) (h : t.read (s.relative p).file = .ok text') :
    ∃ ps c, parts p = ps ++ [c] ∧ c ≠ ".." := by
  obtain ⟨qs, d, hroute, -, hdirectory⟩ := FileTree.exists_concat_of_read hs
  have hway : t.route (s.relative p).file = qs ++ parts p := by
    rw [SourceUnit.relative, FileTree.route_under hp, FileTree.route_parent hne, hroute,
      List.dropLast_concat]
  obtain ⟨rs, c, hrs, hc, -⟩ := FileTree.exists_concat_of_read h
  obtain ⟨-, -, bytes, hfollow, -⟩ := FileTree.read_eq_ok.1 h
  rw [hway] at hrs hfollow
  rcases List.eq_nil_or_concat (parts p) with hnil | ⟨ps, e, hps⟩
  · rw [hnil, List.append_nil, hdirectory] at hfollow
    cases hfollow
  · rw [List.concat_eq_append] at hps
    rw [hps, ← List.append_assoc] at hrs
    obtain ⟨-, rfl⟩ := List.append_inj' hrs rfl |>.imp_right List.singleton_inj.1
    exact ⟨ps, e, hps, hc⟩

end

/-! ## Seeds -/

section
variable (t : FileTree) (base : String) (main : SourceUnit)

/-- A unit whose name is not made from that of another one: the main unit, or an import that is
found below the base directory, or in a package there. -/
inductive IsSeed : SourceUnit → Prop
  | main : IsSeed main
  | verbatim {text p dir} : text ∈ t.texts → p ∈ importPaths text → ¬ p.startsWith "." →
      (dir = base ∨ dir = under base packageFolder) → IsSeed ⟨p, under dir p⟩

/-- A unit that is a seed, or the relative import of a seed that can be read. -/
inductive Stems : SourceUnit → Prop
  | seed {s} : IsSeed t base main s → Stems s
  | relative {s text p} : IsSeed t base main s → t.read s.file = .ok text → ¬ isAbsolute p →
      Stems (s.relative p)

end

section
variable {t : FileTree} {base p text : String} {main s u v : SourceUnit}

/-- The path of a seed that can be read names a file. -/
theorem IsSeed.parts_ne_nil (hmain : isAbsolute main.file) (h : IsSeed t base main s)
    (hread : t.read s.file = .ok text) : parts s.file ≠ [] := by
  obtain ⟨qs, c, hroute, -⟩ := FileTree.exists_concat_of_read hread
  have habsolute (hfile : isAbsolute s.file) : parts s.file ≠ [] := by
    rw [FileTree.route, if_pos hfile] at hroute
    rw [hroute]
    simp
  cases h with
  | main => exact habsolute hmain
  | @verbatim text p dir _ hp hdot _ =>
    by_cases hp' : isAbsolute p
    · refine habsolute ?_
      rwa [under_of_isAbsolute hp', isAbsolute_congr (root_tidy p)]
    · rw [parts_under hp']
      have := Path.parts_ne_nil (ne_empty_of_mem_importPaths hp) hp' hdot
      simp [this]

/-- **What a unit imports stems from a seed as it does.** -/
theorem Stems.locate (hmain : isAbsolute main.file) (h : Stems t base main u)
    (hread : t.read u.file = .ok text) (hp : p ∈ importPaths text)
    (hv : locate t base u p = .ok v) : Stems t base main v := by
  by_cases hdot : p.startsWith "."
  · have hrel := not_isAbsolute_of_dot hdot
    rw [locate_relative hdot] at hv
    cases hv
    cases h with
    | seed hseed => exact .relative hseed hread hrel
    | @relative s text' q hseed hs hq =>
      obtain ⟨ps, c, hparts, hc⟩ :=
        SourceUnit.exists_parts_of_read hs (hseed.parts_ne_nil hmain hs) hq hread
      rw [SourceUnit.relative_relative hq hrel hparts hc]
      refine .relative hseed hs ?_
      rwa [isAbsolute_congr (root_under hrel), isAbsolute_congr (root_parent q)]
  · obtain ⟨rfl, dir, hdir, hfile⟩ := locate_verbatim hdot hv
    have : v = ⟨v.name, under dir v.name⟩ := by rw [← hfile]
    rw [this]
    exact .seed (.verbatim (FileTree.mem_texts_of_read hread) hp hdot hdir)

/-- What a search reads stems from seeds. -/
theorem Visits.stems {opened : List Opened} (h : Visits t base [] [main] opened)
    (hmain : isAbsolute main.file) : ∀ o ∈ opened, Stems t base main o.unit := by
  refine h.reached (P := Stems t base main) (fun o ho hstems v hv => ?_) ?_
  · obtain ⟨hread, hlocated⟩ := h.opened_ok o ho
    obtain ⟨p, hp, hlocate⟩ := (mem_iff_of_mapM hlocated v).1 hv
    exact hstems.locate hmain hread hp hlocate
  · simpa using Stems.seed .main

end

/-! ## Designated files -/

/-- The name of the unit designates its file: it is the path, or the path below the base directory
or the packages there. -/
@[irreducible] def Designated (base : String) (u : SourceUnit) : Prop :=
  if isAbsolute u.name then normal u.file = normal u.name
  else normal u.file = normal (joined base u.name) ∨
    normal u.file = normal (joined (joined base packageFolder) u.name)

section
variable {t : FileTree} {base p text : String} {main s u : SourceUnit}

theorem designated_of_dir {dir : String} (hname : ¬ isAbsolute u.name)
    (hdir : dir = base ∨ dir = under base packageFolder)
    (h : normal u.file = normal (joined dir u.name)) : Designated base u := by
  rw [Designated, if_neg hname, h]
  rcases hdir with rfl | rfl
  · exact .inl rfl
  · have hfolder := not_isAbsolute_packageFolder
    refine .inr (normal_congr ?_ ?_)
    · rw [root_joinedPath hname, root_joinedPath hname, root_under hfolder, root_joinedPath hfolder]
    · rw [parts_joinedPath hname, parts_joinedPath hname, parts_under hfolder,
        parts_joinedPath hfolder]

theorem relative_designated_of_isAbsolute {c : String} (hname : isAbsolute s.name)
    (hroot : root s.file = root s.name) (hparts : parts s.file = parts s.name)
    (hlast : parts s.name = parts (directory s.name) ++ [c]) (hp : ¬ isAbsolute p) :
    Designated base (s.relative p) := by
  have habsolute : isAbsolute (s.relative p).name := by
    rw [SourceUnit.relative, isAbsolute_congr (root_normal _),
      isAbsolute_congr (root_joinedPath hp), isAbsolute_congr (root_directory s.name), hname]
  rw [Designated, if_pos habsolute, SourceUnit.relative, normal_normal]
  refine normal_congr ?_ ?_
  · rw [root_under hp, root_parent, hroot, root_joinedPath hp, root_directory]
  · rw [parts_under hp, parts_parent, hparts, hlast, List.dropLast_concat, parts_joinedPath hp]

/-- A relative import of a unit below a directory: its name is a path below the directory. -/
theorem relative_designated_of_under {dir c : String} (hname : ¬ isAbsolute s.name)
    (hdir : dir = base ∨ dir = under base packageFolder) (hfile : s.file = under dir s.name)
    (hlast : parts s.name = parts (directory s.name) ++ [c]) (hp : ¬ isAbsolute p) :
    Designated base (s.relative p) := by
  have hjoined : ¬ isAbsolute (joined (directory s.name) p) := by
    rwa [isAbsolute_congr (root_joinedPath hp), isAbsolute_congr (root_directory s.name)]
  refine designated_of_dir (not_isAbsolute_normal hjoined) hdir ?_
  rw [SourceUnit.relative, normal_joined_normal hjoined]
  refine normal_congr ?_ ?_
  · rw [root_under hp, root_parent, hfile, root_under hname, root_joinedPath hjoined]
  · rw [parts_under hp, parts_parent, hfile, parts_under hname, hlast, ← List.append_assoc,
      List.dropLast_concat, parts_joinedPath hjoined, parts_joinedPath hp, List.append_assoc]

theorem IsSeed.designated (hmain : isAbsolute main.name) (hfile : main.file = main.name)
    (h : IsSeed t base main s) : Designated base s := by
  cases h with
  | main => rw [Designated, if_pos hmain, hfile]
  | @verbatim text p dir _ _ _ hdir =>
    by_cases hp : isAbsolute p
    · rw [Designated, if_pos hp, under_of_isAbsolute hp, normal_tidy]
    · exact designated_of_dir hp hdir (normal_under hp)

/-- **What stems from a seed holds the file that its name designates**, if the names of all seeds
end in what names a file. -/
theorem Stems.designated (hmain : isAbsolute main.name) (hfile : main.file = main.name)
    (hlast : ∀ s text, IsSeed t base main s → t.read s.file = .ok text →
      ∃ c, parts s.name = parts (directory s.name) ++ [c])
    (h : Stems t base main u) : Designated base u := by
  cases h with
  | seed hseed => exact hseed.designated hmain hfile
  | @relative s text p hseed hread hp =>
    obtain ⟨c, hc⟩ := hlast s text hseed hread
    cases hseed with
    | main => exact relative_designated_of_isAbsolute hmain (by rw [hfile]) (by rw [hfile]) hc hp
    | @verbatim _ q dir _ _ _ hdir =>
      by_cases hq : isAbsolute q
      · refine relative_designated_of_isAbsolute hq ?_ ?_ hc hp
        · rw [under_of_isAbsolute hq, root_tidy]
        · rw [under_of_isAbsolute hq, parts_tidy]
      · exact relative_designated_of_under hq hdir rfl hc hp

end

/-! ## Files of source units -/

section
variable (cwd path : String)

theorem mainUnit_name : (mainUnit cwd path).name = ofParts "/" (settle true []
    (if isAbsolute path then parts path else parts cwd ++ parts path)) := by
  rw [ofParts, if_neg (by simp)]
  rfl

theorem mainUnit_components : ∀ c ∈ settle true []
    (if isAbsolute path then parts path else parts cwd ++ parts path), IsComponent c := by
  refine isComponent_settle ?_
  split
  · exact isComponent_parts path
  · exact isComponent_under cwd path

theorem mainUnit_isAbsolute : isAbsolute (mainUnit cwd path).name := by
  rw [isAbsolute_iff, mainUnit_name, root_ofParts (.inr (.inl rfl)) (mainUnit_components cwd path)]
  nofun

variable {cwd path}

theorem exists_mainUnit_parts {t : FileTree} {text : String}
    (h : t.read (mainUnit cwd path).file = .ok text) :
    ∃ c, parts (mainUnit cwd path).name =
      parts (directory (mainUnit cwd path).name) ++ [c] := by
  have hroot : IsRoot "/" := .inr (.inl rfl)
  have hcomponents := mainUnit_components cwd path
  have hname := mainUnit_name cwd path
  obtain ⟨qs, c, hroute, -⟩ := FileTree.exists_concat_of_read h
  rw [show (mainUnit cwd path).file = (mainUnit cwd path).name from rfl, FileTree.route,
    if_pos (mainUnit_isAbsolute cwd path), hname, parts_ofParts hroot hcomponents] at hroute
  rw [hroute] at hname hcomponents
  exact ⟨c, by rw [hname, parts_ofParts hroot hcomponents,
    parts_directory_ofParts hroot hcomponents]⟩

end

section
variable {t : FileTree} {cwd path : String} {base : Option String}

theorem isAbsolute_baseDirectory (hbase : ∀ dir ∈ base, isAbsolute dir) :
    isAbsolute (base.getD (parent (mainUnit cwd path).name)) := by
  cases base with
  | none =>
    rw [Option.getD_none, isAbsolute_congr (root_parent _)]
    exact mainUnit_isAbsolute cwd path
  | some dir => exact hbase dir rfl

theorem Designated.isAbsolute {dir : String} {u : SourceUnit} (h : Designated dir u)
    (hdir : isAbsolute dir) : isAbsolute u.file := by
  rw [← isAbsolute_congr (root_normal u.file)]
  rw [Designated] at h
  split at h
  · next hname => rw [h, isAbsolute_congr (root_normal u.name), hname]
  · next hname =>
    rcases h with h | h
    · rw [h, isAbsolute_congr (root_normal _), isAbsolute_congr (root_joinedPath hname), hdir]
    · rw [h, isAbsolute_congr (root_normal _), isAbsolute_congr (root_joinedPath hname),
        isAbsolute_congr (root_joinedPath not_isAbsolute_packageFolder), hdir]

/-- A unit that is read holds the text of the file that its name designates. -/
theorem Designated.read {dir text : String} {u : SourceUnit} (h : Designated dir u)
    (hdir : Path.isAbsolute dir) (hread : t.read u.file = .ok text) :
    if Path.isAbsolute u.name then t.read (normal u.name) = .ok text
    else t.read (normal (joined dir u.name)) = .ok text ∨
      t.read (normal (joined (joined dir packageFolder) u.name)) = .ok text := by
  have hnormal := FileTree.read_normal (h.isAbsolute hdir) hread
  rw [Designated] at h
  split at h
  · next hname =>
    rw [if_pos hname, ← h]
    exact hnormal
  · next hname =>
    rw [if_neg hname]
    rcases h with h | h
    · exact .inl (h ▸ hnormal)
    · exact .inr (h ▸ hnormal)

theorem IsSeed.exists_parts {dir text : String} {s : SourceUnit}
    (himports : ∀ text ∈ t.texts, ∀ p ∈ importPaths text,
      p.startsWith "." ∨ ¬ p.endsWith "/" ∧ ¬ p.endsWith "/.")
    (hs : IsSeed t dir (mainUnit cwd path) s) (hread : t.read s.file = .ok text) :
    ∃ c, parts s.name = parts (directory s.name) ++ [c] := by
  cases hs with
  | main => exact exists_mainUnit_parts hread
  | @verbatim text' p _ htext hp hdot _ =>
    obtain ⟨hslash, hslashDot⟩ := (himports text' htext p hp).resolve_left hdot
    refine exists_parts_directory (ne_empty_of_mem_importPaths hp) ?_ hslash hslashDot
    rintro rfl
    exact hdot (String.startsWith_string_iff.2 List.prefix_rfl)

/-- **Every source unit holds the text of the file that its name designates.** No chain of relative
imports files a text under the name of another file, however often it leads up. -/
theorem sourcesOf_designated {sources : Keyed String} (hbase : ∀ dir ∈ base, isAbsolute dir)
    (himports : ∀ text ∈ t.texts, ∀ p ∈ importPaths text,
      p.startsWith "." ∨ ¬ p.endsWith "/" ∧ ¬ p.endsWith "/.")
    (h : sourcesOf t cwd path base = .ok sources) :
    let tree := { t with directory := cwd }
    let dir := base.getD (parent (mainUnit cwd path).name)
    ∀ name text, (name, text) ∈ sources →
      if isAbsolute name then tree.read (normal name) = .ok text
      else tree.read (normal (joined dir name)) = .ok text ∨
        tree.read (normal (joined (joined dir packageFolder) name)) = .ok text := by
  intro tree dir name text hmem
  rw [sourcesOf, sourcesBy] at h
  split at h
  · cases h
  obtain ⟨opened, hreads, hresult, -⟩ := exists_reads h
  rw [hresult, List.nil_append] at hmem
  obtain ⟨o, ho, hentry⟩ := List.mem_map.1 hmem
  cases hentry
  set main := mainUnit cwd path
  replace hreads : Reads tree dir [] [main] opened := hreads
  have habsolute : isAbsolute main.name := mainUnit_isAbsolute cwd path
  have hstems : Stems tree dir main o.unit := hreads.visits.stems habsolute o ho
  have himports' : ∀ text ∈ tree.texts, ∀ p ∈ importPaths text,
      p.startsWith "." ∨ ¬ p.endsWith "/" ∧ ¬ p.endsWith "/." := himports
  have hdesignated := hstems.designated habsolute rfl fun _ _ hs hread =>
    hs.exists_parts himports' hread
  exact hdesignated.read (isAbsolute_baseDirectory hbase) (hreads.opened_ok o ho).1

end

/-- A package whose file leads up out of the packages, and a main file that leads up out of a
directory: the unit `../b.sol` is the file beside the packages. -/
theorem climbing_sources_designated :
    let tree : FileTree :=
      { entries :=
          [(["w", "main.sol"],
              .file (Text.Utf8.encode "import \"./lib/../../w/a.sol\";\nimport 'pkg/c.sol';\n")),
            (["w", "lib"], .directory),
            (["w", "a.sol"], .file (Text.Utf8.encode "import './b.sol';\n")),
            (["w", "b.sol"], .file (Text.Utf8.encode "contract B \x7b\x7d\n")),
            (["w", "node_modules", "pkg", "c.sol"],
              .file (Text.Utf8.encode "import '../../b.sol';\n"))]
        directory := "/w" }
    ∃ sources, sourcesOf tree "/w" "main.sol" (some "/w") = .ok sources ∧
      Keyed.keys sources = ["/w/main.sol", "pkg/c.sol", "../b.sol", "/w/a.sol", "/w/b.sol"] ∧
      ∀ name text, (name, text) ∈ sources →
        if isAbsolute name then tree.read (normal name) = .ok text
        else tree.read (normal (joined "/w" name)) = .ok text ∨
          tree.read (normal (joined (joined "/w" packageFolder) name)) = .ok text := by
  intro tree
  have hkeys : (sourcesOf tree "/w" "main.sol" (some "/w")).toOption.map Keyed.keys =
      some ["/w/main.sol", "pkg/c.sol", "../b.sol", "/w/a.sol", "/w/b.sol"] := by decide +kernel
  have hbase : ∀ dir ∈ some "/w", isAbsolute dir := by decide +kernel
  have himports : ∀ text ∈ tree.texts, ∀ p ∈ importPaths text,
      p.startsWith "." ∨ ¬ p.endsWith "/" ∧ ¬ p.endsWith "/." := by decide +kernel
  cases h : sourcesOf tree "/w" "main.sol" (some "/w") with
  | error e =>
    rw [h] at hkeys
    cases hkeys
  | ok sources =>
    rw [h] at hkeys
    have hread := sourcesOf_designated hbase himports h
    exact ⟨sources, rfl, Option.some.inj hkeys, hread⟩

end ContractAudit.Solidity
