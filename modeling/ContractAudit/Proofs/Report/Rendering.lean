/-
  Which reports of a batch can be rendered in which format.

  * The listing and the compact report are always written: the columns that they show are no greater
    than offsets that were read, so that they have numerals (`column_lt_of_mem_ofFiled`).
  * The report in JSON is written iff nothing attached is nested too deep, and the page and the full
    text iff each diagnostic can be shown in them.
  * `returns_tabular`: the table is written if the markup in every path can be shown with its
    colours; `not_returns_tabular`: it is not if there is a path whose markup cannot be shown.
  * `Format.returns_render` puts this together for all formats.  A path that closes a tag which it
    has not opened ends the table (`closing_path_ends_table`).
-/
import ContractAudit.Proofs.Diagnostic.Placement
import ContractAudit.Proofs.Report.Lossless
import ContractAudit.Proofs.Report.Names
import ContractAudit.Proofs.Report.TestCase
import ContractAudit.Proofs.SourceMap.Entry
import ContractAudit.Proofs.Terminal.Markup
import ContractAudit.Proofs.Terminal.Styles

namespace ContractAudit

open Terminal

namespace Report

/-! ## The table -/

section
variable {cwd : String} {rs : List Report}

theorem returns_countRow {r : Report} :
    Returns (countRow cwd r) ↔ Returns (styledText (Path.shortened cwd r.filePath)) :=
  Returns.bind_iff_of_returns fun _ => .pure _

theorem styles_countRow {P : Option String → Prop} {r : Report} {row : List StyledText}
    (hrow : countRow cwd r = .ok row)
    (h : ∀ t, styledText (Path.shortened cwd r.filePath) = .ok t → t.Styles P) :
    ∀ t ∈ row, t.Styles P := by
  obtain ⟨path, hpath, hcells⟩ := bind_eq_ok.1 hrow
  cases hcells
  simp only [List.forall_mem_cons]
  exact ⟨h path hpath, .of_nil rfl, .of_nil rfl, nofun⟩

/-- **The table is written if the markup in every path can be shown with its colours.** -/
theorem returns_tabular (h : ∀ r ∈ rs, ∃ t, styledText (Path.shortened cwd r.filePath) = .ok t ∧
    t.Styles HasColours) : Returns (tabular cwd rs) := by
  have hrows : Returns (rs.mapM (countRow cwd)) := by
    rw [Returns.mapM_iff]
    intro r hr
    obtain ⟨t, ht, -⟩ := h r hr
    exact returns_countRow.2 ⟨t, ht⟩
  obtain ⟨rows, hrows⟩ := hrows
  have hstyles : ∀ row ∈ [["File", "Errors", "Warnings"].map StyledText.plain] ++ rows,
      ∀ t ∈ row, t.Styles HasColours := by
    rw [List.forall_mem_append, List.forall_mem_singleton]
    refine ⟨List.forall_mem_map.2 fun _ _ => .of_nil rfl, fun row hrow => ?_⟩
    obtain ⟨r, hr, hcells⟩ := (mem_iff_of_mapM hrows row).1 hrow
    obtain ⟨t, ht, hcolours⟩ := h r hr
    refine styles_countRow hcells fun t' ht' => ?_
    cases ht.symm.trans ht'
    exact hcolours
  rw [tabular, Returns.bind_iff_of_returns fun _ => .pure _, countLines, hrows, ok_bind,
    Returns.bind_iff_of_returns fun _ => .pure _, Returns.forM_iff]
  intro t ht
  have hnone : HasColours none := nofun
  exact returns_resolveStyles.2 (styles_tableTexts hnone _ _ _ hstyles t ht)

/-- **The table is not written if there is a path whose markup cannot be shown.** -/
theorem not_returns_tabular {r : Report} (hr : r ∈ rs)
    (h : ¬ Returns (styledText (Path.shortened cwd r.filePath))) : ¬ Returns (tabular cwd rs) := by
  rw [tabular, Returns.bind_iff_of_returns fun _ => .pure _, countLines, Returns.bind_iff]
  rintro ⟨rows, hrows, -⟩
  exact h (returns_countRow.1 (Returns.mapM_iff.1 ⟨rows, hrows⟩ r hr))

end

/-! ## The page -/

theorem returns_html {cwd : String} {rs : List Report} :
    Returns (Format.html.render cwd rs) ↔ ∀ r ∈ rs, ∀ d ∈ r.messages, d.HasNumerals := by
  rw [Format.render, Returns.bind_iff_of_returns fun _ => .pure _, Returns.forM_iff]
  simp only [Returns.forM_iff, returns_checkPlace]

end Report

/-! ## Columns -/

/-- A range begins in a column that is no greater than its offset. -/
theorem Diagnostic.column_lt_of_ofFinding {f : Finding} {text path : Option String}
    {table : Option LineTable} {d : Diagnostic} (h : ofFinding f text path table = .ok d) :
    d.column < 10 ^ Text.maxDigits := by
  have houtcome := ofFinding_outcome f text path table
  rw [h] at houtcome
  cases houtcome with
  | unresolved => exact Nat.pow_pos (by decide)
  | placed _ _ hentry => exact Nat.lt_of_le_of_lt (Nat.sub_le _ _) (Entry.offset_lt_of_parse hentry)

theorem Report.column_lt_of_mem_ofFiled {findings : List Finding} {sources : Json.Members}
    {sourceList : List String} {filed : List (String × Diagnostic)}
    (hfiled : (findings.filter Finding.isReadable).mapM (Finding.filed sources sourceList) =
      .ok filed) {r : Report} (hr : r ∈ ofFiled filed) {d : Diagnostic} (hd : d ∈ r.messages) :
    d.column < 10 ^ Text.maxDigits := by
  obtain ⟨f, -, -, hf⟩ := exists_of_mem_ofFiled hfiled hr hd
  obtain ⟨d', hdiagnose, heq⟩ := bind_eq_ok.1 hf
  obtain ⟨-, rfl⟩ := Prod.mk.inj (Except.ok.inj heq)
  exact Diagnostic.column_lt_of_ofFinding hdiagnose

/-! ## All formats -/

/-- **Which reports of a batch can be rendered.** There are reports, and the listing and the compact
report of them are always written; the columns that these show have numerals. The report in JSON is
written iff nothing that is attached to a finding is nested too deep, the page iff all places have
numerals, and the full text iff the test cases have the right shape besides. The table is written if
no path that it shows has a tag, and it is not if one of them closes a tag before it opens one. -/
theorem Format.returns_render (cwd : String) (findings : List Finding) (sources : Json.Members)
    (sourceList : List String) :
    ∃ reports, (Report.ofFindingsIn findings (.obj sources) (.texts sourceList)).1 = .ok reports ∧
      (∀ f ∈ [stylish, compact], Returns (f.render cwd reports)) ∧
      (∀ r ∈ reports, ∀ d ∈ r.messages, d.column < 10 ^ Text.maxDigits) ∧
      (Returns (json.render cwd reports) ↔ ∀ r ∈ reports, r.HasLevels) ∧
      (Returns (html.render cwd reports) ↔ ∀ r ∈ reports, ∀ d ∈ r.messages, d.HasNumerals) ∧
      (Returns (text.render cwd reports) ↔ ∀ r ∈ reports, ∀ d ∈ r.messages,
        d.HasNumerals ∧ ∀ f ∈ d.finding, f.showsTestCases = true) ∧
      ((∀ r ∈ reports, hasTag (Path.shortened cwd r.filePath).toList = false) →
        Returns (table.render cwd reports)) ∧
      ((∃ r ∈ reports, ClosesFirst (Path.shortened cwd r.filePath).toList) →
        ¬ Returns (table.render cwd reports)) := by
  obtain ⟨filed, hfiled, hreports⟩ := exists_filed sources sourceList findings
  refine ⟨_, hreports, ?_, fun r hr d => Report.column_lt_of_mem_ofFiled hfiled hr,
    Report.returns_json, Report.returns_html, Report.returns_narrative, fun h => ?_, ?_⟩
  · simp [render]
  · refine Report.returns_tabular fun r hr => ⟨_, styledText_of_hasTag (h r hr), ?_⟩
    exact .of_nil rfl
  · rintro ⟨r, hr, hcloses⟩
    exact Report.not_returns_tabular hr hcloses.not_returns

/-- **A path that closes a tag ends the table.** The service reports one issue in a file whose name
holds a closing tag; its report is made, and no table is written of it. -/
theorem closing_path_ends_table :
    let location : Json :=
      .obj [("sourceMap", .str "0:1:0"), ("sourceType", .str "solidity-file"),
        ("sourceFormat", .str "text"), ("sourceList", .arr [.str "lib[/x].sol"])]
    let issue : Json :=
      .obj [("swcID", .str "SWC-101"), ("severity", .str "High"),
        ("description", .obj [("head", .str "Bad"), ("tail", .str "")]),
        ("locations", .arr [location])]
    ∃ findings reports,
      (Finding.ofReports (.arr [.obj [("issues", .arr [issue])]])).1 = .ok findings ∧
      (Report.ofFindingsIn findings (.obj [("lib[/x].sol", .str "contract C \x7b\x7d")])
        (.texts [])).1 = .ok reports ∧
      reports.map Report.filePath = ["lib[/x].sol"] ∧
      ¬ Returns (Format.table.render "/work" reports) := by
  intro location issue
  let payload : Json := .arr [.obj [("issues", .arr [issue])]]
  let sources : Json := .obj [("lib[/x].sol", .str "contract C \x7b\x7d")]
  have hpaths : ((Finding.ofReports payload).1.toOption.bind fun findings =>
      (Report.ofFindingsIn findings sources (.texts [])).1.toOption).map (·.map Report.filePath) =
        some ["lib[/x].sol"] := by
    decide +kernel
  obtain ⟨reports, hreports, hpath⟩ := Option.map_eq_some_iff.1 hpaths
  obtain ⟨findings, hfindings, hreports⟩ := Option.bind_eq_some_iff.1 hreports
  obtain ⟨r, rfl, hr⟩ := List.map_eq_singleton_iff.1 hpath
  have hshown : Path.shortened "/work" r.filePath = "lib[/x].sol" := by
    rw [hr]
    decide +kernel
  have hcloses : ClosesFirst "lib[/x].sol".toList :=
    ⟨['l', 'i', 'b'], ['x'], ".sol".toList, rfl, by simp, by simp⟩
  refine ⟨findings, [r], toOption_eq_some_iff.1 hfindings, toOption_eq_some_iff.1 hreports, hpath,
    Report.not_returns_tabular (List.mem_singleton_self r) ?_⟩
  rw [hshown]
  exact hcloses.not_returns

end ContractAudit
