/-
  The lines of the compact report.

  * `Report.entries` are the diagnostics of some reports with the paths of these, in the order of
    the reports.  The compact report writes the entries one below the other, then an empty line and
    their number (`lines_compact`);
  * `lineTexts` are the texts from outside in what is written for an entry.  They may hold line
    feeds, and each of these breaks the line (`count_compactLine`, `length_lines_compact`);
  * `IsByLine`: each entry has a line of its own.  It has iff no text has a line feed
    (`isByLine_compact_iff`, `length_lines_compact_iff`);
  * `forall_entries_iff`: for what shows in identities, the entries of a batch are as good as all
    that is filed, so `ofReports_byLine` tells from the findings of the service when its report is
    by line.

  Only the ends of a text of the service are stripped.  A line feed within the description of an
  issue makes two lines of one diagnostic (`broken_description_breaks_line`).
-/
import ContractAudit.Proofs.Finding.Canonical
import ContractAudit.Proofs.Report.Names
import ContractAudit.Proofs.Text.Line
import ContractAudit.Report.Format

namespace ContractAudit

namespace Report

/-! ## Entries and their lines -/

/-- The diagnostics of some reports, each with the path of its report. -/
def entries (rs : List Report) : List (String × Diagnostic) :=
  rs.flatMap fun r => r.messages.map (r.filePath, ·)

/-- The texts from outside that are written for an entry. -/
def lineTexts (p : String × Diagnostic) : List String :=
  [p.1, p.2.message, p.2.ruleLink]

/-- The number of line feeds in these texts. -/
def lineFeeds (p : String × Diagnostic) : Nat :=
  total ((lineTexts p).map fun s => s.toList.count '\n')

/-- The text has one line for each entry, in their order, then an empty line and their number. -/
def IsByLine (ps : List (String × Diagnostic)) (text : String) : Prop :=
  Text.lines text.toList =
    ps.map (fun p => (compactLine p.1 p.2).toList) ++ [[], (counted ps.length "problem").toList]

theorem notMem_showInt (n : Int) : '\n' ∉ (Text.showInt n).toList :=
  fun h => absurd (Json.isNumeralChar_of_mem_showInt h) (by decide)

theorem count_compactLine (p : String × Diagnostic) :
    (compactLine p.1 p.2).toList.count '\n' = lineFeeds p := by
  have hnumeral : ∀ n : Int, (Text.showInt n).toList.count '\n' = 0 :=
    fun n => List.count_eq_zero.2 (notMem_showInt n)
  have hword : (if p.2.isFatal = true then "Error" else "Warning").toList.count '\n' = 0 := by
    split <;> decide
  simp [compactLine, lineFeeds, lineTexts, total, hnumeral, hword]

theorem lineFeeds_eq_zero_iff {p : String × Diagnostic} :
    lineFeeds p = 0 ↔ ∀ s ∈ lineTexts p, '\n' ∉ s.toList := by
  rw [lineFeeds, total_eq_zero_iff, List.forall_mem_map]
  exact forall₂_congr fun _ _ => List.count_eq_zero

theorem length_flatMap_compactLine (ps : List (String × Diagnostic)) :
    (ps.flatMap fun p => Text.lines (compactLine p.1 p.2).toList).length =
      ps.length + total (ps.map lineFeeds) := by
  induction ps with
  | nil => rfl
  | cons p ps ih =>
    rw [List.flatMap_cons, List.length_append, ih, Text.length_lines, count_compactLine,
      List.map_cons, total, List.length_cons]
    omega

theorem notMem_counted (n : Nat) {noun : String} (h : '\n' ∉ noun.toList) :
    '\n' ∉ (counted n noun).toList := by
  have hnumeral := notMem_showInt n
  rw [counted]
  split <;> simp [h, hnumeral]

section
variable {rs : List Report}

theorem length_entries (rs : List Report) :
    (entries rs).length = (rs.flatMap messages).length := by
  simp [entries, List.length_flatMap]

theorem compact_eq (h : entries rs ≠ []) :
    compact rs = Text.joined "\n"
      ((entries rs).map (fun p => compactLine p.1 p.2) ++
        ["", counted (entries rs).length "problem"]) := by
  have hlines : (rs.flatMap fun r => r.messages.map (compactLine r.filePath)) =
      (entries rs).map fun p => compactLine p.1 p.2 := by
    simp [entries, List.map_flatMap, Function.comp_def]
  have hne : ¬ ((entries rs).map fun p => compactLine p.1 p.2).isEmpty = true := by
    simpa using h
  rw [compact]
  simp only [hlines, if_neg hne, List.length_map]

/-- **The compact report is made of the lines of its entries**, an empty line and their number. -/
theorem lines_compact (h : entries rs ≠ []) :
    Text.lines (compact rs).toList =
      ((entries rs).flatMap fun p => Text.lines (compactLine p.1 p.2).toList) ++
        [[], (counted (entries rs).length "problem").toList] := by
  have hcount : '\n' ∉ (counted (entries rs).length "problem").toList :=
    notMem_counted _ (by decide)
  have hempty : Text.lines "".toList = [[]] := rfl
  rw [compact_eq h, Text.lines_joined (by simp), List.flatMap_append, List.flatMap_map,
    List.flatMap_cons, List.flatMap_singleton, hempty, Text.lines_of_notMem hcount]
  rfl

/-- **Each line feed in a text makes one line more.** -/
theorem length_lines_compact (h : entries rs ≠ []) :
    (Text.lines (compact rs).toList).length =
      (entries rs).length + total ((entries rs).map lineFeeds) + 2 := by
  rw [lines_compact h, List.length_append, length_flatMap_compactLine]
  rfl

theorem length_lines_compact_iff (h : entries rs ≠ []) :
    (Text.lines (compact rs).toList).length = (entries rs).length + 2 ↔
      ∀ p ∈ entries rs, ∀ s ∈ lineTexts p, '\n' ∉ s.toList := by
  have hnone : total ((entries rs).map lineFeeds) = 0 ↔
      ∀ p ∈ entries rs, ∀ s ∈ lineTexts p, '\n' ∉ s.toList := by
    rw [total_eq_zero_iff, List.forall_mem_map]
    exact forall₂_congr fun _ _ => lineFeeds_eq_zero_iff
  rw [length_lines_compact h, ← hnone]
  omega

/-- **The compact report is by line iff no text has a line feed.** -/
theorem isByLine_compact_iff (h : entries rs ≠ []) :
    IsByLine (entries rs) (compact rs) ↔ ∀ p ∈ entries rs, ∀ s ∈ lineTexts p, '\n' ∉ s.toList := by
  constructor
  · intro hline
    rw [← length_lines_compact_iff h, hline]
    simp
  · intro hnone
    have hown : ∀ p ∈ entries rs,
        Text.lines (compactLine p.1 p.2).toList = [(compactLine p.1 p.2).toList] := by
      intro p hp
      refine Text.lines_of_notMem (List.count_eq_zero.1 ?_)
      rw [count_compactLine, lineFeeds_eq_zero_iff]
      exact hnone p hp
    rw [IsByLine, lines_compact h, List.flatMap_congr hown, ← List.map_eq_flatMap]

end

/-! ## Entries of a batch -/

section
variable {filed : List (String × Diagnostic)}

theorem mem_entries_ofFiled {p : String × Diagnostic} :
    p ∈ entries (ofFiled filed) ↔ p.2 ∈ messagesAt p.1 filed := by
  obtain ⟨path, d⟩ := p
  have hpath : d ∈ messagesAt path filed → path ∈ filed.map (·.1) := fun hd =>
    List.mem_map_of_mem (mem_of_mem_messagesAt hd)
  simp only [entries, ofFiled, ofMessages, List.mem_flatMap, List.mem_map, List.mem_eraseDups]
  constructor
  · rintro ⟨_, ⟨_, -, rfl⟩, m, hm, he⟩
    obtain ⟨rfl, rfl⟩ := Prod.mk.inj he
    exact hm
  · intro hd
    exact ⟨_, ⟨path, List.mem_map.1 (hpath hd), rfl⟩, d, hd, rfl⟩

/-- **What the identity and the path of an entry determine holds of all entries iff it holds of all
that is filed**, since each identity that is filed at a path remains there. -/
theorem forall_entries_iff {P : String × Diagnostic → Prop}
    (hP : ∀ path d e, d.identity = e.identity → P (path, d) → P (path, e)) :
    (∀ p ∈ entries (ofFiled filed), P p) ↔ ∀ p ∈ filed, P p := by
  constructor
  · rintro h ⟨path, d⟩ hp
    have hkept : d.identity ∈ (messagesAt path filed).map Diagnostic.identity := by
      rw [messagesAt, mem_map_eraseDupsBy Diagnostic.identity]
      refine List.mem_map_of_mem (List.mem_map.2 ⟨(path, d), ?_, rfl⟩)
      exact List.mem_filter.2 ⟨hp, decide_eq_true rfl⟩
    obtain ⟨e, he, hidentity⟩ := List.mem_map.1 hkept
    exact hP path e d hidentity (h (path, e) (mem_entries_ofFiled.2 he))
  · rintro h ⟨path, d⟩ hp
    exact h (path, d) (mem_of_mem_messagesAt (mem_entries_ofFiled.1 hp))

theorem lineTexts_eq_of_identity_eq (path : String) {d e : Diagnostic}
    (h : d.identity = e.identity) : lineTexts (path, d) = lineTexts (path, e) := by
  rw [Diagnostic.identity_eq_iff] at h
  simp only [Diagnostic.keyFields, List.cons.injEq, Prod.mk.injEq, Json.str.injEq,
    true_and] at h
  obtain ⟨-, hmessage, -, -, -, -, -, hrule, -⟩ := h
  simp only [lineTexts, hmessage, hrule]

end

end Report

/-! ## Findings -/

theorem mem_ruleLink_iff (id : Option String) :
    '\n' ∈ (ruleLink id).toList ↔ '\n' ∈ (id.getD "").toList := by
  cases id with
  | none => simp [ruleLink, noRuleLink]
  | some id => by_cases h : id = "" <;> simp [ruleLink, noRuleLink, h]

/-- The texts of a finding that are written in the compact report: the path under which it is filed,
its description and its rule. -/
def Finding.lineTexts (sources : Json.Members) (sourceList : List String) (f : Finding) :
    List String :=
  [f.path sources sourceList, f.description.head, f.swcId.getD ""]

section
variable {sources : Json.Members} {sourceList : List String} {f : Finding}

/-- A diagnostic has the description and the page of the rule of its finding. -/
theorem Diagnostic.texts_of_ofFinding {text : Option String} {path : String}
    {table : Option LineTable} {d : Diagnostic} (h : ofFinding f text (some path) table = .ok d) :
    d.message = f.description.head ∧ d.ruleLink = ContractAudit.ruleLink f.swcId := by
  rw [ofFinding_of_none (locationError?_of_ofFinding h)] at h
  obtain rfl := Except.ok.inj h
  split
  · exact ⟨rfl, rfl⟩
  · exact ⟨rfl, rfl⟩

/-- What is filed for a finding is written without a line feed iff its texts have none. -/
theorem notMem_lineTexts_iff {p : String × Diagnostic}
    (h : f.filed sources sourceList = .ok p) :
    (∀ s ∈ Report.lineTexts p, '\n' ∉ s.toList) ↔
      ∀ s ∈ f.lineTexts sources sourceList, '\n' ∉ s.toList := by
  obtain ⟨d, hd, hp⟩ := bind_eq_ok.1 h
  obtain rfl : (f.path sources sourceList, d) = p := Except.ok.inj hp
  obtain ⟨hmessage, hrule⟩ := Diagnostic.texts_of_ofFinding hd
  simp only [Report.lineTexts, Finding.lineTexts, List.forall_mem_cons, hmessage, hrule,
    mem_ruleLink_iff]

end

theorem ofReports_isNormal {payload : Json} {findings : List Finding}
    (h : (Finding.ofReports payload).1 = .ok findings) : ∀ f ∈ findings, f.IsNormal := by
  intro f hf
  rw [Finding.ofReports] at h
  split at h
  · obtain ⟨-, hissues⟩ := Issue.collect_eq_ok h
    obtain ⟨p, -, hp⟩ := (mem_iff_of_mapM (mapM_eq_ok_iff.2 hissues) f).1 hf
    exact Issue.ofIssue_isNormal p.2 (.obj p.1) f hp
  · cases h

/-- **When the compact report of an answer is by line.** Texts of the service are stripped, but what
stands between their ends is written as it is: the report has two lines more than diagnostics and
one more for each line feed in a path, a description or a rule. So it has a line for each diagnostic
iff no finding that can be read has a line feed there. -/
theorem ofReports_byLine (cwd : String) {payload : Json} {findings : List Finding}
    (h : (Finding.ofReports payload).1 = .ok findings) (sources : Json.Members)
    (sourceList : List String) :
    (∀ f ∈ findings, Text.IsStripped f.description.head ∧ Text.IsStripped (f.swcId.getD "")) ∧
    ∃ reports, (Report.ofFindingsIn findings (.obj sources) (.texts sourceList)).1 = .ok reports ∧
      (Report.entries reports ≠ [] → ∃ text, Format.compact.render cwd reports = .ok text ∧
        Text.lines text.toList = ((Report.entries reports).flatMap fun p =>
            Text.lines (Report.compactLine p.1 p.2).toList) ++
          [[], (Report.counted (Report.entries reports).length "problem").toList] ∧
        (Text.lines text.toList).length = (Report.entries reports).length +
          total ((Report.entries reports).map Report.lineFeeds) + 2 ∧
        ((Text.lines text.toList).length = (Report.entries reports).length + 2 ↔
          Report.IsByLine (Report.entries reports) text) ∧
        (Report.IsByLine (Report.entries reports) text ↔
          ∀ f ∈ findings, f.isReadable = true →
            ∀ s ∈ f.lineTexts sources sourceList, '\n' ∉ s.toList)) := by
  refine ⟨fun f hf => ?_, ?_⟩
  · have hnormal := ofReports_isNormal h f hf
    exact ⟨hnormal.head, Issue.isStripped_getD hnormal.swcId⟩
  · obtain ⟨filed, hfiled, hreports⟩ := exists_filed sources sourceList findings
    refine ⟨_, hreports, fun hne => ⟨_, rfl, Report.lines_compact hne,
      Report.length_lines_compact hne, ?_, ?_⟩⟩
    · rw [Report.length_lines_compact_iff hne, Report.isByLine_compact_iff hne]
    · -- what shows in a line shows in the identity, so no finding is lost by repeating another one
      rw [Report.isByLine_compact_iff hne, Report.forall_entries_iff fun path d e hidentity hd => by
        rwa [← Report.lineTexts_eq_of_identity_eq path hidentity]]
      constructor
      · intro hnone f hf hread
        obtain ⟨p, hp, hmem⟩ := exists_of_mapM hfiled f (List.mem_filter.2 ⟨hf, hread⟩)
        exact (notMem_lineTexts_iff hp).1 (hnone p hmem)
      · intro hnone p hp
        obtain ⟨f, hmem, hf⟩ := (mem_iff_of_mapM hfiled p).1 hp
        obtain ⟨hfind, hread⟩ := List.mem_filter.1 hmem
        exact (notMem_lineTexts_iff hf).2 (hnone f hfind hread)

/-- The report of an issue in the first line of a file. -/
def issueReport (path head : String) : Json :=
  .obj [("issues", .arr [.obj [("severity", .str "High"), ("description", .str head),
    ("locations", .arr [.obj [("sourceMap", .str "0:1:0"), ("sourceType", .str "solidity-file"),
      ("sourceFormat", .str "text"), ("sourceList", .arr [.str path])]])]])]

/-- Two issues whose descriptions have line feeds at their ends: these are stripped, and each issue
has a line. -/
theorem stripped_descriptions_byLine :
    let payload : Json :=
      .arr [issueReport "a.sol" "first\n", issueReport "b.sol" "\r\n second \n"]
    ∃ findings reports text,
      (Finding.ofReports payload).1 = .ok findings ∧
      (Report.ofFindingsIn findings (.obj [("a.sol", .str "a\n")]) (.texts [])).1 = .ok reports ∧
      Format.compact.render "/work" reports = .ok text ∧
      text = "a.sol: line 1, col 0, Error - first (N/A)\n" ++
        "b.sol: line -1, col 0, Error - second (N/A)\n\n2 problems" ∧
      Report.entries reports ≠ [] ∧ Report.IsByLine (Report.entries reports) text := by
  intro payload
  have hwritten : ((Finding.ofReports payload).1.toOption.bind fun findings =>
      (Report.ofFindingsIn findings (.obj [("a.sol", .str "a\n")]) (.texts [])).1.toOption).map
        (fun reports => (Report.compact reports, (Report.entries reports).length)) =
      some ("a.sol: line 1, col 0, Error - first (N/A)\n" ++
        "b.sol: line -1, col 0, Error - second (N/A)\n\n2 problems", 2) := by
    decide +kernel
  obtain ⟨reports, hreports, hwritten⟩ := Option.map_eq_some_iff.1 hwritten
  obtain ⟨findings, hfindings, hreports⟩ := Option.bind_eq_some_iff.1 hreports
  obtain ⟨htext, hlength⟩ := Prod.mk.inj hwritten
  have hfindings := toOption_eq_some_iff.1 hfindings
  have hreports := toOption_eq_some_iff.1 hreports
  obtain ⟨-, _, hsame, hline⟩ := ofReports_byLine "/work" hfindings [("a.sol", .str "a\n")] []
  obtain rfl := Except.ok.inj (hreports.symm.trans hsame)
  have hne : Report.entries reports ≠ [] := by
    rw [← List.length_pos_iff, hlength]
    decide
  obtain ⟨text, hrender, -, -, hbyLine, -⟩ := hline hne
  obtain rfl : Report.compact reports = text := Except.ok.inj hrender
  refine ⟨findings, reports, _, hfindings, hreports, rfl, htext, hne, hbyLine.1 ?_⟩
  rw [htext, hlength]
  decide +kernel

/-- **A line feed within a description breaks the line.** The report of one diagnostic has four
lines instead of three. -/
theorem broken_description_breaks_line :
    ∃ findings reports text,
      (Finding.ofReports (.arr [issueReport "a.sol" "first\nsecond"])).1 = .ok findings ∧
      (Report.ofFindingsIn findings (.obj [("a.sol", .str "a\n")]) (.texts [])).1 = .ok reports ∧
      Format.compact.render "/work" reports = .ok text ∧
      (Report.entries reports).length = 1 ∧ (Text.lines text.toList).length = 4 ∧
      ¬ Report.IsByLine (Report.entries reports) text := by
  have hwritten : ((Finding.ofReports (.arr [issueReport "a.sol" "first\nsecond"])).1.toOption.bind
      fun findings =>
        (Report.ofFindingsIn findings (.obj [("a.sol", .str "a\n")]) (.texts [])).1.toOption).map
        (fun reports => ((Report.entries reports).length,
          (Text.lines (Report.compact reports).toList).length)) = some (1, 4) := by
    decide +kernel
  obtain ⟨reports, hreports, hwritten⟩ := Option.map_eq_some_iff.1 hwritten
  obtain ⟨findings, hfindings, hreports⟩ := Option.bind_eq_some_iff.1 hreports
  obtain ⟨hlength, hlines⟩ := Prod.mk.inj hwritten
  refine ⟨findings, reports, _, toOption_eq_some_iff.1 hfindings, toOption_eq_some_iff.1 hreports,
    rfl, hlength, hlines, fun hline => ?_⟩
  -- by line it would have one line for the diagnostic and two more
  rw [hline, List.length_append, List.length_map, hlength] at hlines
  exact absurd hlines (by decide)

end ContractAudit
