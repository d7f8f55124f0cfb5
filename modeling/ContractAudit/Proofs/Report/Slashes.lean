/-
  Paths that the service writes with a slash in front.

  * `Slashed known p q`: `q` is `p`, or `p` with a slash in front where only the bare path is known.
    Findings are `Slashed` if the paths in their source lists are, and nothing else differs;
  * `fileAt_slashed`: an index names the same file in slashed source lists, so a finding is filed
    under the same path, with the same text, and its diagnostic differs only in the finding that it
    keeps (`Finding.Slashed.listed?`, `Finding.Slashed.upTo_diagnose`);
  * `Diagnostic.UpTo` and `Report.UpTo`: diagnostics and reports that are equal but for the findings
    that they keep.  Repetitions are told without these, so what is filed up to findings has reports
    up to findings (`Report.upTo_ofFiled`);
  * `ofFindingsIn_slashed`: slashes in front of known paths, in any source lists of a batch, change
    nothing in its log, and nothing in its reports but the findings that they keep.
-/
import ContractAudit.Proofs.Finding.File
import ContractAudit.Proofs.Report.Unordered

namespace ContractAudit

/-! ## Slashes in front of paths -/

/-- `Slashed known p q`: `q` is `p`, or `p` with a slash in front where only the bare path is
known. -/
inductive Slashed (known : List String) (p : String) : String → Prop
  | same : Slashed known p p
  | slash (hp : p ∈ known) (hq : "/" ++ p ∉ known) : Slashed known p ("/" ++ p)

/-- The candidates differ only in slashes in front of paths. -/
structure Candidate.Slashed (known : List String) (c d : Candidate) : Prop where
  rest : d = { c with sourceList := d.sourceList }
  sourceList : List.Forall₂ (ContractAudit.Slashed known) c.sourceList d.sourceList

/-- The findings differ only in slashes in front of paths. -/
structure Finding.Slashed (known : List String) (f g : Finding) : Prop where
  rest : g = { f with locations := g.locations }
  locations : List.Forall₂ (Candidate.Slashed known) f.locations g.locations

section
variable {known : List String} {p q : String}

theorem Slashed.knownPath (h : Slashed known p q) :
    ContractAudit.knownPath known q = ContractAudit.knownPath known p := by
  cases h with
  | same => rfl
  | slash hp hq => rw [knownPath_slash hp hq, knownPath_of_mem hp]

theorem fileAt_slashed (index : Int) {files others : List String}
    (h : List.Forall₂ (Slashed known) files others) :
    (fileAt index others known).toOption = (fileAt index files known).toOption := by
  have hpaths : others.map (knownPath known) = files.map (knownPath known) := by
    induction h with
    | nil => rfl
    | cons hp _ ih => rw [List.map_cons, List.map_cons, hp.knownPath, ih]
  rw [toOption_fileAt, toOption_fileAt, hpaths]

end

namespace Candidate.Slashed

variable {known : List String} {c d : Candidate} (h : c.Slashed known d)
include h

theorem sourceMap : d.sourceMap = c.sourceMap := by
  rw [h.rest]

theorem files {files others : List String}
    (hlist : List.Forall₂ (ContractAudit.Slashed known) files others) :
    List.Forall₂ (ContractAudit.Slashed known)
      (if c.sourceList.isEmpty then files else c.sourceList)
      (if d.sourceList.isEmpty then others else d.sourceList) := by
  have hown := h.sourceList
  generalize c.sourceList = own at hown
  generalize d.sourceList = own' at hown
  cases hown with
  | nil => exact hlist
  | cons hp hrest => exact .cons hp hrest

end Candidate.Slashed

/-! ## Reports that keep other findings -/

/-- The diagnostics are equal but for the findings that they keep, which `R` relates. -/
structure Diagnostic.UpTo (R : Finding → Finding → Prop) (d e : Diagnostic) : Prop where
  rest : e = { d with finding := e.finding }
  finding : Option.Rel R d.finding e.finding

/-- The reports are equal but for the findings that their diagnostics keep. -/
structure Report.UpTo (R : Finding → Finding → Prop) (r s : Report) : Prop where
  filePath : s.filePath = r.filePath
  errorCount : s.errorCount = r.errorCount
  warningCount : s.warningCount = r.warningCount
  messages : List.Forall₂ (Diagnostic.UpTo R) r.messages s.messages

section
variable {R : Finding → Finding → Prop}

/-- The identity of a diagnostic leaves out the finding. -/
theorem Diagnostic.UpTo.identity {d e : Diagnostic} (h : d.UpTo R e) : d.identity = e.identity := by
  rw [h.rest]; rfl

theorem Diagnostic.UpTo.isFatal {d e : Diagnostic} (h : d.UpTo R e) : d.isFatal = e.isFatal := by
  rw [h.rest]; rfl

variable {filed others : List (String × Diagnostic)}

/-- The same diagnostics remain at a path. -/
theorem upTo_messagesAt (path : String)
    (h : List.Forall₂ (fun p q => p.1 = q.1 ∧ p.2.UpTo R q.2) filed others) :
    List.Forall₂ (Diagnostic.UpTo R) (messagesAt path filed) (messagesAt path others) := by
  have hpath := List.rel_filter (p := fun p => p.1 = path) (q := fun q => q.1 = path)
    (fun p q hpq => by simp [hpq.1]) h
  exact forall₂_eraseDupsBy Diagnostic.identity (fun _ _ hde => hde.identity)
    (List.rel_map (fun _ _ hpq => hpq.2) hpath)

/-- A report of the same diagnostics. -/
theorem Report.upTo_ofMessages (path : String) {messages messages' : List Diagnostic}
    (h : List.Forall₂ (Diagnostic.UpTo R) messages messages') :
    (ofMessages path messages).UpTo R (ofMessages path messages') := by
  have hfatal := (List.rel_filter (p := Diagnostic.isFatal) (q := Diagnostic.isFatal)
    (fun _ _ hde => by simp [hde.isFatal]) h).length_eq
  exact { filePath := rfl
          errorCount := hfatal.symm
          warningCount := by rw [ofMessages, ofMessages, h.length_eq, hfatal]
          messages := h }

/-- What is filed up to findings has reports up to findings. -/
theorem Report.upTo_ofFiled
    (h : List.Forall₂ (fun p q => p.1 = q.1 ∧ p.2.UpTo R q.2) filed others) :
    List.Forall₂ (Report.UpTo R) (ofFiled filed) (ofFiled others) := by
  have hpaths : filed.map (·.1) = others.map (·.1) := by
    induction h with
    | nil => rfl
    | cons hpq _ ih => rw [List.map_cons, List.map_cons, hpq.1, ih]
  rw [ofFiled, ofFiled, ← hpaths, List.forall₂_map_left_iff, List.forall₂_map_right_iff,
    List.forall₂_same]
  exact fun path _ => upTo_ofMessages path (upTo_messagesAt path h)

end

/-! ## Findings -/

theorem Finding.Slashed.upTo_unresolved {known : List String} {f g : Finding}
    (h : f.Slashed known g) (path : Option String) :
    (Diagnostic.unresolved f path).UpTo (Finding.Slashed known) (.unresolved g path) := by
  have hrest : Diagnostic.unresolved g path =
      { Diagnostic.unresolved f path with finding := some g } := by
    rw [h.rest]; rfl
  exact ⟨hrest, .some h⟩

theorem Diagnostic.UpTo.placed {R : Finding → Finding → Prop} {d e : Diagnostic} (h : d.UpTo R e)
    (span : Span) (text : String) (table : LineTable) :
    (d.placed span text table).UpTo R (e.placed span text table) :=
  ⟨by rw [h.rest]; rfl, h.finding⟩

namespace Finding.Slashed

section
variable {known : List String} {f g : Finding} (h : f.Slashed known g)
include h

/-- The location that counts is the same one. -/
theorem authoritative?_cases :
    (f.authoritative? = none ∧ g.authoritative? = none) ∨
      ∃ c d, f.authoritative? = some c ∧ g.authoritative? = some d ∧ c.Slashed known d := by
  have htext := List.rel_filter (p := Candidate.isText) (q := Candidate.isText)
    (fun c d hcd => by rw [hcd.rest]; rfl) h.locations
  simp only [Finding.authoritative?, textLocations]
  generalize f.locations.filter Candidate.isText = cs at htext
  generalize g.locations.filter Candidate.isText = ds at htext
  cases htext with
  | nil => exact .inl ⟨rfl, rfl⟩
  | cons hcd _ => exact .inr ⟨_, _, rfl, rfl, hcd⟩

theorem entry? : g.entry? = f.entry? := by
  obtain ⟨hf, hg⟩ | ⟨c, d, hf, hg, hcd⟩ := h.authoritative?_cases
  · simp only [Finding.entry?, hf, hg]
  · simp only [Finding.entry?, hf, hg, Option.bind_some, hcd.sourceMap]

theorem locationError? : g.locationError? = f.locationError? := by
  obtain ⟨hf, hg⟩ | ⟨c, d, hf, hg, hcd⟩ := h.authoritative?_cases
  · simp only [Finding.locationError?, hf, hg]
  · simp only [Finding.locationError?, hf, hg, Option.map_some, hcd.sourceMap]

theorem isReadable : g.isReadable = f.isReadable := by
  rw [Finding.isReadable, Finding.isReadable, h.locationError?]

/-- Its diagnostic differs only in the finding. -/
theorem upTo_ofFinding {text : Option String} {path : String} {table : Option LineTable}
    {d : Diagnostic} (hd : Diagnostic.ofFinding f text (some path) table = .ok d) :
    ∃ e, Diagnostic.ofFinding g text (some path) table = .ok e ∧
      d.UpTo (Finding.Slashed known) e := by
  have hread := Diagnostic.locationError?_of_ofFinding hd
  have hplain := h.upTo_unresolved (some path)
  rw [Diagnostic.ofFinding_of_none hread] at hd
  obtain rfl := Except.ok.inj hd
  refine ⟨_, Diagnostic.ofFinding_of_none (h.locationError?.trans hread) _ _ _, ?_⟩
  rw [h.entry?]
  split
  · exact hplain.placed _ _ _
  · exact hplain

theorem note (e : LocationError) : Grouping.note g e = Grouping.note f e := by
  rw [h.rest]; rfl

end

section
variable {sources : Json.Members} {sourceList others : List String} {f g : Finding}
  (h : f.Slashed (Keyed.keys sources) g)
  (hlist : List.Forall₂ (ContractAudit.Slashed (Keyed.keys sources)) sourceList others)
include h hlist

theorem listed? : g.listed? sources others = f.listed? sources sourceList := by
  obtain ⟨hf, hg⟩ | ⟨c, d, hf, hg, hcd⟩ := h.authoritative?_cases
  · simp only [Finding.listed?, hf, hg, Option.bind_eq_bind, Option.bind_none]
  · simp only [Finding.listed?, hf, hg, h.entry?, Option.bind_eq_bind, Option.bind_some,
      fileAt_slashed _ (hcd.files hlist)]

theorem path : g.path sources others = f.path sources sourceList := by
  rw [Finding.path, Finding.path, h.listed? hlist]

theorem text? : g.text? sources others = f.text? sources sourceList := by
  rw [Finding.text?, Finding.text?, h.listed? hlist]

/-- It is filed under the same path, with a diagnostic that differs only in the finding. -/
theorem upTo_filed {p q : String × Diagnostic} (hp : f.filed sources sourceList = .ok p)
    (hq : g.filed sources others = .ok q) :
    p.1 = q.1 ∧ p.2.UpTo (Finding.Slashed (Keyed.keys sources)) q.2 := by
  obtain ⟨d, hd, hp⟩ := bind_eq_ok.1 hp
  obtain ⟨e, he, hq⟩ := bind_eq_ok.1 hq
  cases hp
  cases hq
  obtain ⟨e', he', hde⟩ := h.upTo_ofFinding hd
  rw [diagnose, h.path hlist, h.text? hlist, he', Except.ok.injEq] at he
  exact ⟨(h.path hlist).symm, he ▸ hde⟩

end

end Finding.Slashed

/-! ## Batches -/

theorem ofFindingsIn_log (findings : List Finding) (sources : Json.Members)
    (sourceList : List String) :
    (Report.ofFindingsIn findings (.obj sources) (.texts sourceList)).2 =
      findings.filterMap fun f => f.locationError?.map (Grouping.note f) := by
  obtain ⟨_, -, h⟩ := Report.ofFindings_eq sources sourceList findings
  rw [ofFindingsIn_texts, h]

theorem notes_slashed {known : List String} {findings others : List Finding}
    (h : List.Forall₂ (Finding.Slashed known) findings others) :
    (others.filterMap fun f => f.locationError?.map (Grouping.note f)) =
      findings.filterMap fun f => f.locationError?.map (Grouping.note f) := by
  induction h with
  | nil => rfl
  | @cons f g _ _ hfg _ ih =>
    have hnote : Grouping.note g = Grouping.note f := funext hfg.note
    rw [List.filterMap_cons, List.filterMap_cons, hfg.locationError?, hnote, ih]

/-- **The service's slash is not seen.** Where the paths of a batch, in the source lists of its
findings or in that of the run, get a slash in front that is not known with it, the reports are the
same up to the findings that they keep, and so is the log. -/
theorem ofFindingsIn_slashed {findings others : List Finding} {sources : Json.Members}
    {sourceList otherList : List String}
    (hfindings : List.Forall₂ (Finding.Slashed (Keyed.keys sources)) findings others)
    (hlist : List.Forall₂ (Slashed (Keyed.keys sources)) sourceList otherList) :
    ∃ reports otherReports log,
      Report.ofFindingsIn findings (.obj sources) (.texts sourceList) = (.ok reports, log) ∧
      Report.ofFindingsIn others (.obj sources) (.texts otherList) = (.ok otherReports, log) ∧
      List.Forall₂ (Report.UpTo (Finding.Slashed (Keyed.keys sources))) reports otherReports := by
  obtain ⟨filed, hf, hr⟩ := exists_filed sources sourceList findings
  obtain ⟨otherFiled, hf', hr'⟩ := exists_filed sources otherList others
  have hreadable := List.rel_filter (p := Finding.isReadable) (q := Finding.isReadable)
    (fun _ _ hfg => by simp only [hfg.isReadable]) hfindings
  have hfiled := forall₂_of_mapM (fun f g hfg _ _ hp hq => hfg.upTo_filed hlist hp hq)
    hreadable hf hf'
  have hlog : (Report.ofFindingsIn others (.obj sources) (.texts otherList)).2 =
      (Report.ofFindingsIn findings (.obj sources) (.texts sourceList)).2 := by
    rw [ofFindingsIn_log, ofFindingsIn_log, notes_slashed hfindings]
  exact ⟨_, _, _, Prod.ext hr rfl, Prod.ext hr' hlog, Report.upTo_ofFiled hfiled⟩

/-- Two equal findings of which the second one gets a slash still collapse, and a finding in the
file that the run lists with a slash is filed there; an unreadable one is noted as before. -/
theorem slashed_findings_collapse :
    let sources : Json.Members := [("a.sol", .str "a\nb\n"), ("b.sol", .str "c\n")]
    let reported (token : String) (sourceList : List String) : Finding :=
      { locations := [{ sourceMap := token, sourceType := "solidity-file", sourceFormat := "text",
                        sourceList }] }
    let findings := [reported "2:1:0" ["a.sol"], reported "2:1:0" ["a.sol"], reported "0:1:1" [],
      reported "0:1" ["a.sol"]]
    let others := [reported "2:1:0" ["a.sol"], reported "2:1:0" ["/a.sol"], reported "0:1:1" [],
      reported "0:1" ["/a.sol"]]
    let slashed := Finding.Slashed (Keyed.keys sources)
    List.Forall₂ slashed findings others ∧
    List.Forall₂ (Slashed (Keyed.keys sources)) ["a.sol", "b.sol"] ["a.sol", "/b.sol"] ∧
    (Report.ofFindingsIn others (.obj sources) (.texts ["a.sol", "/b.sol"])).1.toOption.map
      (·.map fun r => (r.filePath, r.messages.map Diagnostic.line)) =
        some [("a.sol", [2]), ("b.sol", [1])] ∧
    ∃ reports otherReports log,
      Report.ofFindingsIn findings (.obj sources) (.texts ["a.sol", "b.sol"]) =
        (.ok reports, log) ∧
      Report.ofFindingsIn others (.obj sources) (.texts ["a.sol", "/b.sol"]) =
        (.ok otherReports, log) ∧
      List.Forall₂ (Report.UpTo slashed) reports otherReports := by
  intro sources reported findings others slashed
  have hslash : Slashed (Keyed.keys sources) "a.sol" "/a.sol" :=
    .slash (by decide) (by decide)
  have hreported (token : String) {l m : List String}
      (h : List.Forall₂ (Slashed (Keyed.keys sources)) l m) :
      slashed (reported token l) (reported token m) :=
    ⟨rfl, .cons ⟨rfl, h⟩ .nil⟩
  have hown : List.Forall₂ (Slashed (Keyed.keys sources)) ["a.sol"] ["/a.sol"] :=
    .cons hslash .nil
  have hfindings : List.Forall₂ slashed findings others :=
    .cons (hreported _ (.cons .same .nil)) <| .cons (hreported _ hown) <|
      .cons (hreported _ .nil) <| .cons (hreported _ hown) .nil
  have hlist : List.Forall₂ (Slashed (Keyed.keys sources)) ["a.sol", "b.sol"] ["a.sol", "/b.sol"] :=
    .cons .same (.cons (.slash (by decide) (by decide)) .nil)
  exact ⟨hfindings, hlist, by decide +kernel, ofFindingsIn_slashed hfindings hlist⟩

end ContractAudit
