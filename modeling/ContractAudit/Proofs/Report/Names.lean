/-
  The path under which a report shows its diagnostics.

  * `filePath_of_filed`: a diagnostic has the path under which it is filed, unless that is empty,
    since an empty path is taken for a missing one;
  * `Report.Names`: the record of a report, the record of a diagnostic in it, the page, the listing
    and the full text all give one path for the diagnostic;
  * `ofFindingsIn_names`: so it is in the reports of a batch, but for the report of the empty path,
    and there is none iff no readable finding is filed under it.

  An empty text in a source list makes such a report: it is headed by nothing, and its diagnostics
  say `<unknown>` (`empty_path_is_renamed`).
-/
import ContractAudit.Proofs.Answers
import ContractAudit.Proofs.Report.Unordered
import ContractAudit.Report.Html
import ContractAudit.Report.Listing

namespace ContractAudit

/-! ## The path of a diagnostic -/

theorem Diagnostic.filePath_of_ofFinding {f : Finding} {text : Option String} {path : String}
    {table : Option LineTable} {d : Diagnostic} (h : ofFinding f text (some path) table = .ok d) :
    d.filePath = if path = "" then unknownFile else path := by
  rw [ofFinding_of_none (locationError?_of_ofFinding h)] at h
  obtain rfl := Except.ok.inj h
  -- a position leaves the path alone
  split
  · rfl
  · rfl

section
variable {sources : Json.Members} {sourceList : List String}

/-- What is filed for a finding: a diagnostic under the path of the finding, which is its own but
for the empty one. -/
theorem filePath_of_filed {f : Finding} {p : String × Diagnostic}
    (h : f.filed sources sourceList = .ok p) :
    p.1 = f.path sources sourceList ∧ p.2.filePath = if p.1 = "" then unknownFile else p.1 := by
  obtain ⟨d, hd, h⟩ := bind_eq_ok.1 h
  obtain rfl : (f.path sources sourceList, d) = p := Except.ok.inj h
  exact ⟨rfl, Diagnostic.filePath_of_ofFinding hd⟩

variable {findings : List Finding} {filed : List (String × Diagnostic)}
  (hf : (findings.filter Finding.isReadable).mapM (Finding.filed sources sourceList) = .ok filed)
include hf

theorem exists_of_mem_ofFiled {r : Report} (hr : r ∈ Report.ofFiled filed) {m : Diagnostic}
    (hm : m ∈ r.messages) :
    ∃ f ∈ findings, f.isReadable = true ∧ f.filed sources sourceList = .ok (r.filePath, m) := by
  obtain ⟨path, -, rfl⟩ := List.mem_map.1 hr
  obtain ⟨f, hmem, hfiled⟩ := (mem_iff_of_mapM hf _).1 (mem_of_mem_messagesAt hm)
  obtain ⟨hfind, hread⟩ := List.mem_filter.1 hmem
  exact ⟨f, hfind, hread, hfiled⟩

theorem exists_mem_ofFiled {f : Finding} (hfind : f ∈ findings) (hread : f.isReadable = true) :
    ∃ r ∈ Report.ofFiled filed, r.filePath = f.path sources sourceList ∧ ∃ m, m ∈ r.messages := by
  obtain ⟨p, hp, hmem⟩ := exists_of_mapM hf f (List.mem_filter.2 ⟨hfind, hread⟩)
  have hin : p.1 ∈ filed.map (·.1) := List.mem_map_of_mem hmem
  exact ⟨_, List.mem_map_of_mem (List.mem_eraseDups.2 hin), (filePath_of_filed hp).1,
    List.exists_mem_of_ne_nil _ (mt messagesAt_eq_nil_iff.1 (not_not.2 hin))⟩

end

/-! ## Where reports name the path -/

namespace Report

/-- `r.Names cwd m path`: the record, the page, the listing and the full text of the report `r` all
give `path` for its diagnostic `m`. -/
structure Names (cwd : String) (r : Report) (m : Diagnostic) (path : String) : Prop where
  /-- The diagnostic itself. -/
  own : m.filePath = path
  /-- The record of the report, with that of the diagnostic in it. -/
  record : r.toJson.get "file_path" = .ok (.str path) ∧
    ∃ records, r.toJson.get "messages" = .ok (.arr records) ∧ m.toJson ∈ records ∧
      m.toJson.get "file_path" = .ok (.str path)
  /-- The heading on the page above the row of the diagnostic. -/
  page : ∃ rows, r.htmlTable = ("<h3>" ++ Html.escape path ++ "</h3>") :: rows ∧ htmlRow m ∈ rows
  /-- The lines of the listing above the row of the diagnostic. -/
  listing : ∃ rows, listingRow m ∈ rows ∧ listingLines cwd r =
    wrappedLines (Path.shortened cwd path) ++ Terminal.gridLines pageWidth listingColumns rows ++
      [[]]
  /-- What comes third in the block of the diagnostic in the full text. -/
  narrative : Yields (narrativeBlock r.filePath m) fun block => ∃ title severity rest,
    block = Text.joined "\n" (title :: severity :: ("File: " ++ path) :: rest)

theorem yields_narrativeBlock (path : String) (d : Diagnostic) :
    Yields (narrativeBlock path d) fun block => ∃ title severity rest,
      block = Text.joined "\n" (title :: severity :: ("File: " ++ path) :: rest) := by
  unfold narrativeBlock
  refine .bind fun _ _ => .bind fun cases _ => .pure ?_
  simp only [List.cons_append, List.append_assoc]
  exact ⟨_, _, _, rfl⟩

theorem names_of_filePath (cwd : String) {r : Report} {m : Diagnostic} (hm : m ∈ r.messages)
    (h : m.filePath = r.filePath) : r.Names cwd m r.filePath where
  own := h
  record := ⟨rfl, _, rfl, List.mem_map_of_mem hm, by rw [← h]; rfl⟩
  page := by
    refine ⟨_, rfl, ?_⟩
    show htmlRow m ∈ _ :: (r.messages.map htmlRow ++ _)
    exact List.mem_cons_of_mem _ (List.mem_append_left _ (List.mem_map_of_mem hm))
  listing := ⟨_, List.mem_map_of_mem hm, rfl⟩
  narrative := yields_narrativeBlock r.filePath m

end Report

/-! ## Batches -/

/-- **A report shows its diagnostics under its own path**, which is theirs. Only in the report of
the empty path they say `<unknown>`, and there is one iff a readable finding is filed under it. -/
theorem ofFindingsIn_names (cwd : String) (findings : List Finding) (sources : Json.Members)
    (sourceList : List String) :
    ∃ reports, (Report.ofFindingsIn findings (.obj sources) (.texts sourceList)).1 = .ok reports ∧
      (∀ r ∈ reports, ∀ m ∈ r.messages,
        (r.filePath ≠ "" → r.Names cwd m r.filePath) ∧
        (r.filePath = "" → m.filePath = unknownFile)) ∧
      ((∀ r ∈ reports, ∀ m ∈ r.messages, m.filePath = r.filePath) ↔
        ∀ f ∈ findings, f.isReadable = true → f.path sources sourceList ≠ "") := by
  obtain ⟨filed, hf, hr⟩ := exists_filed sources sourceList findings
  have hname : ∀ r ∈ Report.ofFiled filed, ∀ m ∈ r.messages,
      m.filePath = if r.filePath = "" then unknownFile else r.filePath := by
    intro r hmem m hm
    obtain ⟨f, -, -, hfiled⟩ := exists_of_mem_ofFiled hf hmem hm
    exact (filePath_of_filed hfiled).2
  refine ⟨_, hr, fun r hmem m hm => ⟨fun hne => ?_, fun hempty => ?_⟩, fun h => ?_, fun h => ?_⟩
  · have hown := hname r hmem m hm
    rw [if_neg hne] at hown
    exact Report.names_of_filePath cwd hm hown
  · rw [hname r hmem m hm, if_pos hempty]
  · -- a finding under the empty path has a diagnostic, and that says `<unknown>`
    intro f hfind hread hempty
    obtain ⟨r, hmem, hpath, m, hm⟩ := exists_mem_ofFiled hf hfind hread
    have hown := hname r hmem m hm
    rw [h r hmem m hm, hpath, hempty, if_pos rfl] at hown
    exact absurd hown (by decide)
  · intro r hmem m hm
    obtain ⟨f, hfind, hread, hfiled⟩ := exists_of_mem_ofFiled hf hmem hm
    have hpath : r.filePath = f.path sources sourceList := (filePath_of_filed hfiled).1
    rw [hname r hmem m hm, if_neg (hpath.trans_ne (h f hfind hread))]

/-- **The report of the empty path does not name its diagnostics as they do.** A finding whose
source list has an empty text is filed under that, and its diagnostic says `<unknown>`. -/
theorem empty_path_is_renamed :
    let finding : Finding :=
      { locations := [{ sourceMap := "0:1:0", sourceType := "solidity-file", sourceFormat := "text",
                        sourceList := [""] }] }
    ∃ reports, (Report.ofFindingsIn [finding] (.obj []) (.texts [])).1 = .ok reports ∧
      reports.map (fun r => (r.filePath, r.messages.map Diagnostic.filePath)) =
        [("", ["<unknown>"])] ∧
      ¬ ∀ r ∈ reports, ∀ m ∈ r.messages, m.filePath = r.filePath := by
  intro finding
  have hpaths : (Report.ofFindingsIn [finding] (.obj []) (.texts [])).1.toOption.map
      (·.map fun r => (r.filePath, r.messages.map Diagnostic.filePath)) =
        some [("", ["<unknown>"])] := by
    decide +kernel
  obtain ⟨reports, hreports, hpaths⟩ := Option.map_eq_some_iff.1 hpaths
  refine ⟨reports, toOption_eq_some_iff.1 hreports, hpaths, fun h => ?_⟩
  obtain ⟨r, rfl, hr⟩ := List.map_eq_singleton_iff.1 hpaths
  obtain ⟨hpath, hmessages⟩ := Prod.mk.inj hr
  obtain ⟨m, hm, hname⟩ := List.map_eq_singleton_iff.1 hmessages
  have hsame := h r (List.mem_singleton_self r) m (by rw [hm]; exact List.mem_singleton_self m)
  rw [hname, hpath] at hsame
  exact absurd hsame (by decide)

end ContractAudit
