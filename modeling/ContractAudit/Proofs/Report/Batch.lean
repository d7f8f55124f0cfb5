/-
  The reports of a batch of findings, described without the loop that makes them.

  * `Finding.locationError?` is what is wrong with the location of a finding, and a finding is
    readable (`isReadable`) if nothing is;
  * `Finding.path` is the path under which a finding is filed and `Finding.diagnose` its diagnostic,
    by a line table that is built for this one finding;
  * `Report.ofBatch` files the readable findings of a batch one by one, collects the paths in the
    order in which they come first, and the diagnostics of each path without repetitions.

  The loop keeps a cache of line tables and two levels of entries under keys.  `Grouping.Represents`
  ties its state to the findings filed so far; `add_of_none` and `add_of_error` say what one
  finding does to it, and `foldl_add` what a batch does.

  * `ofFindingsIn_batch`: the reports of a batch are those of `Report.ofBatch`.
-/
import ContractAudit.Proofs.Distinct
import ContractAudit.Proofs.Report.Lookup

namespace ContractAudit

/-! ## Findings one by one -/

namespace Finding

/-- What is wrong with the location of the finding, if it has one that cannot be read. -/
def locationError? (f : Finding) : Option LocationError :=
  match f.authoritative?.map fun location => Entry.parse location.sourceMap with
  | some (.error e) => some e
  | _ => none

/-- Whether the finding has no location or one that can be read. -/
def isReadable (f : Finding) : Bool :=
  f.locationError?.isNone

/-- What the location of the finding reads as. -/
def entry? (f : Finding) : Option Entry :=
  f.authoritative?.bind fun location => (Entry.parse location.sourceMap).toOption

section
variable (sources : Json.Members) (sourceList : List String)

/-- The path that the location of the finding names, by its own source list or else by
`sourceList`. -/
def listed? (f : Finding) : Option String := do
  let location ← f.authoritative?
  let entry ← f.entry?
  let files := if location.sourceList.isEmpty then sourceList else location.sourceList
  (fileAt entry.file files (Keyed.keys sources)).toOption

/-- The path under which the finding is filed. -/
def path (f : Finding) : String :=
  (f.listed? sources sourceList).getD unknownFile

/-- The text of the file that the finding names. -/
def text? (f : Finding) : Option String :=
  (f.listed? sources sourceList).bind (sourceText? sources)

/-- The diagnostic of the finding, by a line table of its own. -/
def diagnose (f : Finding) : Except LocationError Diagnostic :=
  let text := f.text? sources sourceList
  Diagnostic.ofFinding f text (some (f.path sources sourceList)) (text.map LineTable.ofText)

/-- The finding as it is filed: its path and its diagnostic. -/
def filed (f : Finding) : Except LocationError (String × Diagnostic) := do
  pure (f.path sources sourceList, ← f.diagnose sources sourceList)

end

end Finding

/-! ## Batches -/

/-- The diagnostics of a path among those filed, without those that an earlier one is equal to but
for its finding. -/
def messagesAt (path : String) (filed : List (String × Diagnostic)) : List Diagnostic :=
  ((filed.filter (·.1 = path)).map (·.2)).eraseDupsBy fun d e => d.identity == e.identity

/-- A further diagnostic is kept at its path iff its identity is new there. -/
theorem messagesAt_concat (path : String) (filed : List (String × Diagnostic))
    (p : String × Diagnostic) :
    messagesAt path (filed ++ [p]) =
      if p.1 = path ∧ p.2.identity ∉ (messagesAt path filed).map Diagnostic.identity
      then messagesAt path filed ++ [p.2] else messagesAt path filed := by
  by_cases hp : p.1 = path
  · simp only [messagesAt, List.filter_append, List.map_append, hp, true_and, List.filter_cons,
      decide_true, if_true, List.filter_nil, List.map_cons, List.map_nil,
      eraseDupsBy_concat Diagnostic.identity, mem_map_eraseDupsBy Diagnostic.identity]
    split <;> simp_all
  · simp [messagesAt, List.filter_append, hp]

theorem mem_of_mem_messagesAt {path : String} {filed : List (String × Diagnostic)} {d : Diagnostic}
    (h : d ∈ messagesAt path filed) : (path, d) ∈ filed := by
  obtain ⟨p, hp, rfl⟩ := List.mem_map.1 (mem_of_mem_eraseDupsBy Diagnostic.identity h)
  obtain ⟨hmem, hpath⟩ := List.mem_filter.1 hp
  obtain rfl : p.1 = path := of_decide_eq_true hpath
  exact hmem

/-- A path has diagnostics iff it comes up. -/
theorem messagesAt_eq_nil_iff {filed : List (String × Diagnostic)} {path : String} :
    messagesAt path filed = [] ↔ path ∉ filed.map (·.1) := by
  constructor
  · rintro hnil h
    obtain ⟨p, hp, rfl⟩ := List.mem_map.1 h
    have hmem : p.2.identity ∈ (messagesAt p.1 filed).map Diagnostic.identity := by
      rw [messagesAt, mem_map_eraseDupsBy Diagnostic.identity]
      exact List.mem_map.2 ⟨p.2, List.mem_map.2 ⟨p, by simp [hp], rfl⟩, rfl⟩
    rw [hnil] at hmem
    cases hmem
  · intro h
    have hfilter : filed.filter (·.1 = path) = [] := by
      rw [List.filter_eq_nil_iff]
      intro p hp he
      exact h (List.mem_map.2 ⟨p, hp, of_decide_eq_true he⟩)
    rw [messagesAt, hfilter]; rfl

/-- The report of a path with its counts. -/
def Report.ofMessages (path : String) (messages : List Diagnostic) : Report :=
  { filePath := path
    errorCount := (messages.filter Diagnostic.isFatal).length
    warningCount := messages.length - (messages.filter Diagnostic.isFatal).length
    messages }

/-- The reports of a batch: the readable findings are filed one by one, and each path that comes up
gets a report. -/
def Report.ofBatch (findings : List Finding) (sources : Json.Members) (sourceList : List String) :
    Except LocationError (List Report) := do
  let filed ← (findings.filter Finding.isReadable).mapM (Finding.filed sources sourceList)
  pure ((filed.map (·.1)).eraseDups.map fun path => .ofMessages path (messagesAt path filed))

theorem Report.ofBatch_eq {findings : List Finding} {sources : Json.Members}
    {sourceList : List String} {reports : List Report}
    (h : Report.ofBatch findings sources sourceList = .ok reports) :
    ∃ filed : List (String × Diagnostic),
      (findings.filter Finding.isReadable).mapM (Finding.filed sources sourceList) = .ok filed ∧
      reports = (filed.map (·.1)).eraseDups.map fun path =>
        Report.ofMessages path (messagesAt path filed) := by
  obtain ⟨filed, hf, hreports⟩ := bind_eq_ok.1 h
  exact ⟨filed, hf, (Except.ok.inj hreports).symm⟩

theorem Report.ofDiagnostics_eq (path : String) (messages : List Diagnostic) :
    Report.ofDiagnostics path messages = Report.ofMessages path messages := by
  have h := @List.length_eq_countP_add_countP _ Diagnostic.isFatal messages
  have hw : messages.countP (fun d => !d.isFatal) =
      messages.length - (messages.filter Diagnostic.isFatal).length := by
    rw [← List.countP_eq_length_filter]
    simp only [Bool.not_eq_true, Bool.decide_eq_false] at h
    omega
  rw [Report.ofDiagnostics, Report.ofMessages, hw, List.countP_eq_length_filter]

/-! ## One finding -/

section
variable {sources : Json.Members} {sourceList : List String}

theorem Finding.isReadable_iff {f : Finding} :
    f.isReadable = true ↔ f.locationError? = none := by
  rw [Finding.isReadable, Option.isNone_iff_eq_none]

/-- Where a finding is filed. -/
theorem Grouping.target_eq (f : Finding) :
    Grouping.target sources sourceList f =
      match f.locationError? with
      | some e => .error e
      | none => .ok (f.path sources sourceList, f.text? sources sourceList) := by
  simp only [Grouping.target, Finding.locationError?, Finding.path, Finding.text?,
    Finding.listed?, Finding.entry?]
  cases f.authoritative? with
  | none => rfl
  | some location =>
    cases hp : Entry.parse location.sourceMap with
    | error e => simp [hp]
    | ok entry =>
      simp only [Option.map_some, hp, ok_bind, Except.toOption, Option.bind_eq_bind,
        Option.bind_some]
      cases fileAt entry.file (if location.sourceList.isEmpty = true then sourceList
        else location.sourceList) (Keyed.keys sources) <;> rfl

theorem Diagnostic.ofFinding_of_none {f : Finding} (h : f.locationError? = none)
    (text : Option String) (path : String) (table : Option LineTable) :
    Diagnostic.ofFinding f text (some path) table =
      .ok (match f.entry?, text with
        | some entry, some t => (Diagnostic.unresolved f (some path)).placed entry.span t
            (table.getD (LineTable.ofText t))
        | _, _ => Diagnostic.unresolved f (some path)) := by
  simp only [Finding.locationError?] at h
  simp only [Diagnostic.ofFinding, Finding.entry?]
  cases ha : f.authoritative? with
  | none => rfl
  | some location =>
    cases hp : Entry.parse location.sourceMap with
    | error e => simp [ha, hp] at h
    | ok entry => cases text <;> simp [hp, Except.toOption]

/-- A finding with a diagnostic is readable. -/
theorem Diagnostic.locationError?_of_ofFinding {f : Finding} {text path : Option String}
    {table : Option LineTable} {d : Diagnostic} (h : ofFinding f text path table = .ok d) :
    f.locationError? = none := by
  rw [ofFinding] at h
  rw [Finding.locationError?]
  cases ha : f.authoritative? with
  | none => rfl
  | some location =>
    simp only [ha] at h
    obtain ⟨entry, hentry, -⟩ := bind_eq_ok.1 h
    simp only [Option.map_some, hentry]

theorem Finding.sourceText?_path {f : Finding} {text : String}
    (h : f.text? sources sourceList = some text) :
    sourceText? sources (f.path sources sourceList) = some text := by
  obtain ⟨path, hp, ht⟩ := Option.bind_eq_some_iff.1 h
  rw [Finding.path, hp, Option.getD_some, ht]

variable (sources sourceList) in
theorem Finding.filed_of_none {f : Finding} (h : f.locationError? = none) :
    ∃ d, f.diagnose sources sourceList = .ok d ∧
      f.filed sources sourceList = .ok (f.path sources sourceList, d) := by
  have hd := Diagnostic.ofFinding_of_none h (f.text? sources sourceList)
    (f.path sources sourceList) ((f.text? sources sourceList).map LineTable.ofText)
  exact ⟨_, hd, by rw [Finding.filed, Finding.diagnose, hd]; rfl⟩

/-! ## The loop -/

namespace Grouping

/-- `g.Represents sources filed`: what the loop knows after the findings `filed` are filed. -/
structure Represents (sources : Json.Members) (g : Grouping)
    (filed : List (String × Diagnostic)) : Prop where
  groups : g.groups = (filed.map (·.1)).eraseDups.map fun path =>
    (path, (messagesAt path filed).map fun d => (d.identity, d))
  tables : ∀ path table, Keyed.lookup? path g.tables = some table →
    ∃ text, sourceText? sources path = some text ∧ table = LineTable.ofText text

theorem Represents.nil : Represents sources {} [] :=
  ⟨rfl, fun _ _ h => by simp [Keyed.lookup?] at h⟩

theorem Represents.tableFor {g : Grouping} {filed : List (String × Diagnostic)}
    (hg : g.Represents sources filed) {path text : String}
    (ht : sourceText? sources path = some text) : g.tableFor path text = LineTable.ofText text := by
  rw [Grouping.tableFor]
  cases h : Keyed.lookup? path g.tables with
  | none => rfl
  | some table =>
    obtain ⟨text', ht', rfl⟩ := hg.tables path table h
    rw [ht] at ht'
    cases ht'
    rfl

theorem Represents.group {g : Grouping} {filed : List (String × Diagnostic)}
    (hg : g.Represents sources filed) (path : String) :
    (Keyed.lookup? path g.groups).getD [] =
      (messagesAt path filed).map fun d => (d.identity, d) := by
  rw [hg.groups, Keyed.lookup?_map]
  split
  · rfl
  · rename_i h
    rw [List.mem_eraseDups] at h
    rw [messagesAt_eq_nil_iff.2 h]; rfl

/-- A diagnostic is filed in the group of its path. -/
theorem Represents.file {g : Grouping} {filed : List (String × Diagnostic)}
    (hg : g.Represents sources filed) (path : String) (d : Diagnostic) :
    (g.file path d).Represents sources (filed ++ [(path, d)]) := by
  refine ⟨?_, hg.tables⟩
  have hkeys : Keyed.keys ((messagesAt path filed).map fun d => (d.identity, d)) =
      (messagesAt path filed).map Diagnostic.identity := by
    rw [Keyed.keys, List.map_map]; rfl
  have hgroup : (if (Keyed.lookup? d.identity
        ((messagesAt path filed).map fun d => (d.identity, d))).isSome
      then (messagesAt path filed).map fun d => (d.identity, d)
      else Keyed.insert d.identity d ((messagesAt path filed).map fun d => (d.identity, d))) =
      (messagesAt path (filed ++ [(path, d)])).map fun d => (d.identity, d) := by
    rw [Keyed.isSome_lookup?, hkeys, messagesAt_concat]
    by_cases h : d.identity ∈ (messagesAt path filed).map Diagnostic.identity
    · simp [h]
    · simp only [h, decide_false, Bool.false_eq_true, if_false, true_and, not_false_eq_true,
        if_true, List.map_append, List.map_singleton]
      exact Keyed.insert_of_notMem (hkeys ▸ h)
  have hother : ∀ k, k ≠ path → messagesAt k (filed ++ [(path, d)]) = messagesAt k filed :=
    fun k hk => by rw [messagesAt_concat, if_neg fun h => hk h.1.symm]
  rw [Grouping.file, hg.group, hgroup]
  show Keyed.insert path _ g.groups = _
  rw [hg.groups, Keyed.insert_map _ (nodup_eraseDups _), List.map_append, List.map_singleton,
    eraseDups_concat]
  simp only [List.mem_eraseDups]
  refine List.map_congr_left fun k _ => ?_
  by_cases hk : k = path
  · rw [if_pos hk, hk]
  · rw [if_neg hk, hother k hk]

/-- A cached table that was built from the text of its path changes nothing. -/
theorem Represents.cache {g : Grouping} {filed : List (String × Diagnostic)}
    (hg : g.Represents sources filed) {path text : String}
    (ht : sourceText? sources path = some text) :
    Represents sources { g with tables := Keyed.insert path (LineTable.ofText text) g.tables }
      filed := by
  refine ⟨hg.groups, fun path' table h => ?_⟩
  rw [Keyed.lookup?_insert] at h
  split at h
  · rename_i hp
    rw [Option.some.injEq] at h
    exact ⟨text, hp ▸ ht, h.symm⟩
  · exact hg.tables path' table h

theorem Represents.noted {g : Grouping} {filed : List (String × Diagnostic)}
    (hg : g.Represents sources filed) (f : Finding) (e : LocationError) :
    Represents sources { g with log := note f e :: g.log } filed :=
  ⟨hg.groups, hg.tables⟩

theorem add_of_error (g : Grouping) {f : Finding} {e : LocationError}
    (h : f.locationError? = some e) :
    add sources sourceList g f = { g with log := note f e :: g.log } := by
  rw [add, target_eq, h]

variable (sourceList) in
/-- A readable finding is filed, whatever tables are cached. -/
theorem add_of_none {g : Grouping} {filed : List (String × Diagnostic)}
    (hg : g.Represents sources filed) {f : Finding} (h : f.locationError? = none) :
    ∃ p, f.filed sources sourceList = .ok p ∧
      (add sources sourceList g f).Represents sources (filed ++ [p]) ∧
      (add sources sourceList g f).log = g.log := by
  obtain ⟨d, hd, hf⟩ := Finding.filed_of_none sources sourceList h
  refine ⟨_, hf, ?_⟩
  rw [Finding.diagnose] at hd
  rw [add, target_eq, h]
  cases ht : f.text? sources sourceList with
  | none =>
    rw [ht] at hd
    simp only [Option.map_none] at hd ⊢
    rw [hd]
    exact ⟨hg.file _ d, rfl⟩
  | some text =>
    have htext := Finding.sourceText?_path ht
    rw [ht] at hd
    -- the table at hand is the one that `Finding.diagnose` builds
    simp only [Option.map_some, hg.tableFor htext] at hd ⊢
    rw [hd]
    exact ⟨(hg.cache htext).file _ d, rfl⟩

variable (sourceList) in
/-- The state of the loop after a batch: the readable findings are filed in their order, and the
others are noted. -/
theorem foldl_add (findings : List Finding) {g : Grouping} {filed : List (String × Diagnostic)}
    (hg : g.Represents sources filed) :
    ∃ more, (findings.filter Finding.isReadable).mapM (Finding.filed sources sourceList) =
        .ok more ∧
      (findings.foldl (add sources sourceList) g).Represents sources (filed ++ more) ∧
      (findings.foldl (add sources sourceList) g).log =
        (findings.filterMap fun f => f.locationError?.map (note f)).reverse ++ g.log := by
  induction findings generalizing g filed with
  | nil => exact ⟨[], rfl, by simpa using hg, rfl⟩
  | cons f findings ih =>
    rw [List.foldl_cons]
    cases he : f.locationError? with
    | some e =>
      have hr : ¬ f.isReadable = true := by rw [Finding.isReadable_iff, he]; exact nofun
      rw [add_of_error g he]
      obtain ⟨more, hm, hrep, hlog⟩ := ih (hg.noted f e)
      refine ⟨more, by rwa [List.filter_cons_of_neg hr], hrep, ?_⟩
      rw [hlog, List.filterMap_cons, he]; simp
    | none =>
      obtain ⟨p, hp, hrep, hlog⟩ := add_of_none sourceList hg he
      obtain ⟨more, hm, hrep', hlog'⟩ := ih hrep
      refine ⟨p :: more, ?_, by simpa using hrep', ?_⟩
      · rw [List.filter_cons_of_pos (Finding.isReadable_iff.2 he), List.mapM_cons, hp, hm]; rfl
      · rw [hlog', hlog, List.filterMap_cons, he]; rfl

/-- The reports that the loop ends with. -/
theorem Represents.reports {g : Grouping} {filed : List (String × Diagnostic)}
    (hg : g.Represents sources filed) :
    g.reports = (filed.map (·.1)).eraseDups.map fun path =>
      Report.ofMessages path (messagesAt path filed) := by
  have hfull : (g.groups.filter fun p => !p.2.isEmpty) = g.groups := by
    rw [List.filter_eq_self, hg.groups]
    intro p hp
    obtain ⟨path, hpath, rfl⟩ := List.mem_map.1 hp
    have hne := mt messagesAt_eq_nil_iff.1 (not_not.2 (List.mem_eraseDups.1 hpath))
    simpa using hne
  rw [Grouping.reports, hfull, hg.groups, List.map_map]
  refine List.map_congr_left fun path _ => ?_
  simp only [Function.comp_apply, Report.ofDiagnostics_eq, List.map_map]
  congr 1
  exact List.map_id' _

end Grouping

variable (sources sourceList) in
theorem Report.ofFindings_eq (findings : List Finding) :
    ∃ reports, Report.ofBatch findings sources sourceList = .ok reports ∧
      Report.ofFindings findings sources sourceList =
        (reports, findings.filterMap fun f => f.locationError?.map (Grouping.note f)) := by
  obtain ⟨filed, hf, hrep, hlog⟩ :=
    Grouping.foldl_add sourceList findings Grouping.Represents.nil
  refine ⟨_, by rw [Report.ofBatch, hf]; rfl, ?_⟩
  rw [Report.ofFindings, hrep.reports, hlog]
  simp

/-- **The reports of a batch are those of its readable findings, filed one by one**: no cached table
is seen, every path has one report, and no report is empty. -/
theorem ofFindingsIn_batch (findings : List Finding) (sources : Json.Members)
    (sourceList : List String) :
    ∃ reports, Report.ofBatch findings sources sourceList = .ok reports ∧
      (Report.ofFindingsIn findings (.obj sources) (.texts sourceList)).1 = .ok reports ∧
      (reports.map Report.filePath).Nodup ∧
      ∀ r ∈ reports, r.messages ≠ [] := by
  obtain ⟨reports, hb, hr⟩ := Report.ofFindings_eq sources sourceList findings
  refine ⟨reports, hb, by rw [ofFindingsIn_texts, hr], ?_⟩
  obtain ⟨filed, -, rfl⟩ := Report.ofBatch_eq hb
  constructor
  · have hid : (Report.filePath ∘ fun path => Report.ofMessages path (messagesAt path filed)) =
        id := rfl
    rw [List.map_map, hid, List.map_id]
    exact nodup_eraseDups _
  · intro r hmem
    obtain ⟨path, hpath, rfl⟩ := List.mem_map.1 hmem
    exact mt messagesAt_eq_nil_iff.1 (not_not.2 (List.mem_eraseDups.1 hpath))

end

end ContractAudit
