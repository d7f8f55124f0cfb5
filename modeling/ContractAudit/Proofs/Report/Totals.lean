/-
  The totals that the reports of a batch state.

  * `IsCounted`: the counts of a report are those of its diagnostics.  The totals of such reports
    are the numbers of their fatal diagnostics and of the others (`errors_eq`, `warnings_eq`), and
    the reports of a batch are counted (`isCounted_of_mem_ofFiled`);
  * `wrappedLines_problemLine`: the totals of fewer than `10 ^ 29` diagnostics are one line of the
    listing, and its last one (`getLast?_lines_page`);
  * `StatesTotals`: the compact report ends with the number of diagnostics, the listing with all
    three counts, and the page says them in its sixth line.  No text from outside gets in between,
    whatever it holds (`statesTotals_of_isCounted`);
  * `ofFindingsIn_totals` puts this together for a batch.

  The page is there only if the place of each diagnostic can be written.  A range can end one digit
  beyond the numerals that were read, and then there is no page (`far_range_has_no_page`).
-/
import ContractAudit.Proofs.Report.Lines
import ContractAudit.Proofs.Report.Rendering
import ContractAudit.Proofs.SourceMap.Entry
import ContractAudit.Proofs.Terminal.Fitting

namespace ContractAudit

open Terminal

namespace Report

/-! ## Counts -/

/-- The counts of the report are those of its diagnostics. -/
def IsCounted (r : Report) : Prop :=
  r.errorCount = r.messages.countP Diagnostic.isFatal ∧
    r.warningCount = r.messages.countP fun d => !d.isFatal

section
variable {rs : List Report}

/-- Counts of the diagnostics of each report add up to the count in all of them. -/
theorem total_eq_countP {count : Report → Nat} {p : Diagnostic → Bool}
    (h : ∀ r ∈ rs, count r = r.messages.countP p) :
    total (rs.map count) = (rs.flatMap messages).countP p := by
  induction rs with
  | nil => rfl
  | cons r rs ih =>
    obtain ⟨hr, hrs⟩ := List.forall_mem_cons.1 h
    rw [List.map_cons, total, ih hrs, hr, List.flatMap_cons, List.countP_append]

theorem errors_eq (h : ∀ r ∈ rs, r.IsCounted) :
    errors rs = (rs.flatMap messages).countP Diagnostic.isFatal :=
  total_eq_countP fun r hr => (h r hr).1

theorem warnings_eq (h : ∀ r ∈ rs, r.IsCounted) :
    warnings rs = (rs.flatMap messages).countP fun d => !d.isFatal :=
  total_eq_countP fun r hr => (h r hr).2

end

theorem countP_add_countP (ds : List Diagnostic) :
    ds.countP Diagnostic.isFatal + ds.countP (fun d => !d.isFatal) = ds.length := by
  simpa using (List.length_eq_countP_add_countP Diagnostic.isFatal).symm

theorem isCounted_of_mem_ofFiled {filed : List (String × Diagnostic)} {r : Report}
    (hr : r ∈ ofFiled filed) : r.IsCounted ∧ r.messages ≠ [] := by
  obtain ⟨path, hpath, rfl⟩ := List.mem_map.1 hr
  rw [← ofDiagnostics_eq]
  exact ⟨⟨rfl, rfl⟩, mt messagesAt_eq_nil_iff.1 (not_not.2 (List.mem_eraseDups.1 hpath))⟩

/-! ## The last line of the listing -/

/-- A page keeps a last line in which something else than line feeds stands. -/
theorem page_concat (ls : List (List Char)) {l : List Char} (hne : l ≠ []) (h : '\n' ∉ l) :
    page (ls ++ [l]) = String.ofList (['\n'].intercalate (ls ++ [l])) := by
  obtain ⟨before, hbefore⟩ := Text.suffix_intercalate ['\n'] ls l
  obtain ⟨rest, c, rfl⟩ := (List.eq_nil_or_concat' l).resolve_left hne
  have hc : ¬ (c == '\n') = true := fun heq => h (by simp [eq_of_beq heq])
  have hreverse : (before ++ (rest ++ [c])).reverse = c :: (before ++ rest).reverse := by
    rw [← List.append_assoc, List.reverse_concat]
  have hdrop : (before ++ (rest ++ [c])).reverse.dropWhile (· == '\n') =
      (before ++ (rest ++ [c])).reverse := by
    rw [hreverse]
    exact List.dropWhile_cons_of_neg hc
  rw [page, ← hbefore]
  simp only [hdrop, List.reverse_reverse]

theorem getLast?_lines_page (ls : List (List Char)) {l : List Char} (hne : l ≠ [])
    (h : '\n' ∉ l) : (Text.lines (page (ls ++ [l])).toList).getLast? = some l := by
  have hlines : ls ++ [l] ≠ [] := List.append_ne_nil_of_right_ne_nil ls (List.cons_ne_nil l [])
  rw [page_concat ls hne h, String.toList_ofList, Text.lines_intercalate hlines,
    List.flatMap_append, List.flatMap_singleton, Text.lines_of_notMem h, List.getLast?_concat]

/-- A count with its noun has at most two characters more than its digits and the noun. -/
theorem length_counted_le {n k : Nat} (hk : 0 < k) (h : n < 10 ^ k) (noun : String) :
    (counted n noun).toList.length ≤ k + noun.toList.length + 2 := by
  have hdigits := Text.length_showInt_le hk h
  rw [counted]
  split <;> simp only [String.toList_append, List.length_append] <;> simp <;> omega

theorem isNarrow_counted {n : Nat} {noun : String} (h : IsNarrow noun.toList) :
    IsNarrow (counted n noun).toList := by
  have hblank : IsNarrow " ".toList := by decide +kernel
  have hplural : IsNarrow (if n = 1 then "" else "s").toList := by
    split <;> decide +kernel
  simp only [counted, String.toList_append, isNarrow_append]
  exact ⟨⟨⟨isNarrow_showInt n, hblank⟩, h⟩, hplural⟩

theorem wrappedLines_of_length_le {s : String} (h : IsNarrow s.toList)
    (hw : s.toList.length ≤ pageWidth) : wrappedLines s = [s.toList] := by
  have hchars : (StyledText.plain s).chars = s.toList := h.isPrintable.shown_eq
  rw [wrappedLines, StyledText.wrap_of_length_le .fold (by rwa [hchars]) (by rwa [hchars]),
    List.map_singleton, hchars]

theorem isNarrow_problemLine (errors warnings : Nat) :
    IsNarrow (problemLine errors warnings).toList := by
  simp only [problemLine, String.toList_append, isNarrow_append]
  refine ⟨⟨⟨⟨⟨⟨?_, isNarrow_counted ?_⟩, ?_⟩, isNarrow_counted ?_⟩, ?_⟩, isNarrow_counted ?_⟩,
    ?_⟩ <;>
    decide +kernel

/-- **The totals of fewer than `10 ^ 29` diagnostics take one line of the listing.** The three
counts leave 32 cells to the words between them. -/
theorem wrappedLines_problemLine {errors warnings : Nat} (h : errors + warnings < 10 ^ 29) :
    wrappedLines (problemLine errors warnings) = [(problemLine errors warnings).toList] := by
  refine wrappedLines_of_length_le (isNarrow_problemLine errors warnings) ?_
  have hall := length_counted_le (by decide) h "problem"
  have herrors :=
    length_counted_le (by decide) (Nat.lt_of_le_of_lt (Nat.le_add_right _ _) h) "error"
  have hwarnings :=
    length_counted_le (by decide) (Nat.lt_of_le_of_lt (Nat.le_add_left _ _) h) "warning"
  simp only [problemLine, String.toList_append, List.length_append, pageWidth]
  simp at hall herrors hwarnings ⊢
  omega

/-! ## Statements of the totals -/

/-- The paragraph of the totals on the page. -/
def totalsParagraph (errors warnings : Nat) : String :=
  "<p>" ++ (Text.showInt (errors + warnings) ++ " problem(s): " ++ Text.showInt errors ++
    " error(s), " ++ Text.showInt warnings ++ " warning(s)") ++ "</p>"

theorem notMem_totalsParagraph (errors warnings : Nat) :
    '\n' ∉ (totalsParagraph errors warnings).toList := by
  have hall := notMem_showInt (errors + warnings)
  have herrors := notMem_showInt errors
  have hwarnings := notMem_showInt warnings
  simp [totalsParagraph, hall, herrors, hwarnings]

/-- The lines of the page before the totals. -/
def pageHead : List String :=
  ["<!doctype html>", "<html><head><meta charset='utf-8'><title>MythX Report</title>",
    "<style>" ++ Html.styleSheet ++ "</style>", "</head><body>", "<h2>MythX Report</h2>"]

theorem notMem_styleSheet : '\n' ∉ Html.styleSheet.toList := by
  unfold Html.styleSheet
  iterate 7 refine Text.notMem_append ?_ ?_
  all_goals decide +kernel

/-- **The page says the totals in its sixth line**, before any text from outside. -/
theorem getElem?_lines_html (rs : List Report) :
    (Text.lines (html rs).toList)[5]? =
      some (totalsParagraph (errors rs) (warnings rs)).toList := by
  have hhead : ∀ t ∈ pageHead, '\n' ∉ t.toList := by
    have hstyle := Text.notMem_append (Text.notMem_append (s := "<style>") (by decide)
      notMem_styleSheet) (t := "</style>") (by decide)
    rw [pageHead]
    simp only [List.forall_mem_cons]
    exact ⟨by decide, by decide, hstyle, by decide, by decide, nofun⟩
  have hpage : html rs = Text.joined "\n" (pageHead ++ totalsParagraph (errors rs) (warnings rs) ::
      (rs.flatMap htmlTable ++ ["</body></html>"])) := rfl
  rw [hpage]
  exact Text.getElem?_lines_joined hhead (notMem_totalsParagraph (errors rs) (warnings rs))

/-- The compact report, the listing and the page of the reports state these totals. -/
structure StatesTotals (cwd : String) (rs : List Report) (errors warnings : Nat) : Prop where
  /-- The compact report ends with the number of diagnostics. -/
  compact : ∃ text, Format.compact.render cwd rs = .ok text ∧
    (Text.lines text.toList).getLast? = some (counted (errors + warnings) "problem").toList
  /-- The listing ends with the lines of the totals, and these are one line below `10 ^ 29`. -/
  listing : ∃ ls, Format.stylish.render cwd rs =
      .ok (page (ls ++ wrappedLines (problemLine errors warnings))) ∧
    (errors + warnings < 10 ^ 29 →
      (Text.lines (page (ls ++ wrappedLines (problemLine errors warnings))).toList).getLast? =
        some (problemLine errors warnings).toList)
  /-- The page has them in its sixth line. -/
  page : Yields (Format.html.render cwd rs) fun text =>
    (Text.lines text.toList)[5]? = some (totalsParagraph errors warnings).toList

/-- **Counted reports state the numbers of their diagnostics.** -/
theorem statesTotals_of_isCounted (cwd : String) {rs : List Report} (h : ∀ r ∈ rs, r.IsCounted)
    (hne : rs.flatMap messages ≠ []) :
    StatesTotals cwd rs ((rs.flatMap messages).countP Diagnostic.isFatal)
      ((rs.flatMap messages).countP fun d => !d.isFatal) := by
  rw [← errors_eq h, ← warnings_eq h]
  have hall : errors rs + warnings rs = (entries rs).length := by
    rw [errors_eq h, warnings_eq h, countP_add_countP, length_entries]
  have hentries : entries rs ≠ [] := by
    rw [← List.length_pos_iff, length_entries]
    exact List.length_pos_iff.2 hne
  refine ⟨⟨_, rfl, ?_⟩, ⟨rs.flatMap (listingLines cwd), ?_, fun hsmall => ?_⟩, ?_⟩
  · rw [lines_compact hentries, hall, List.getLast?_append]
    rfl
  · have hsome : ¬ errors rs + warnings rs = 0 := by
      rw [hall]
      exact List.length_pos_iff.2 hentries |>.ne'
    rw [Format.render, listing]
    simp only [if_neg hsome]
  · have hmark : (problemLine (errors rs) (warnings rs)).toList ≠ [] := by
      simp [problemLine]
    have hfeed := (isNarrow_problemLine (errors rs) (warnings rs)).notMem (c := '\n')
      (by decide +kernel)
    rw [wrappedLines_problemLine hsmall, getLast?_lines_page _ hmark hfeed]
  · exact .bind fun _ _ => .pure (getElem?_lines_html rs)

end Report

/-! ## A finding of one byte -/

/-- One byte at an offset in the file `C.sol`. -/
def byteAt (offset : Nat) : Candidate :=
  { sourceMap := Entry.tokenOf offset 1 0, sourceType := "solidity-file", sourceFormat := "text",
    sourceList := ["C.sol"] }

/-- A finding there. -/
def findingAt (offset : Nat) : Finding :=
  { severity := some "High", description := { head := "Bad" }, locations := [byteAt offset] }

/-- The text of the file, which has one line. -/
def oneLine : String := "contract C \x7b\x7d"

/-- The sources with that file. -/
def oneLineSource : Json.Members :=
  [("C.sol", .str oneLine)]

/-- The diagnostic of such a finding ends just after its offset. -/
theorem exists_filed_findingAt {offset : Nat} (h : Text.fitsNumeral offset = true) :
    ∃ d, (findingAt offset).isReadable = true ∧
      (findingAt offset).filed oneLineSource [] = .ok ("C.sol", d) ∧
      d.isFatal = true ∧ d.endColumn = offset + 1 := by
  have hentry : Entry.parse (byteAt offset).sourceMap = .ok ⟨⟨offset, 1⟩, 0⟩ := by
    have hone : Text.fitsNumeral 1 = true := by decide
    have hzero : Text.fitsNumeral 0 = true := by decide
    have hintegers := Entry.integers?_tokenOf h hone hzero (.inl rfl)
    rw [String.append_empty] at hintegers
    rw [byteAt, Entry.parse_eq, hintegers]
    rfl
  have hauthoritative : (findingAt offset).authoritative? = some (byteAt offset) := rfl
  have hread : Finding.entry? (findingAt offset) = some ⟨⟨offset, 1⟩, 0⟩ := by
    rw [Finding.entry?, hauthoritative, Option.bind_some, hentry]
    rfl
  have hnone : (findingAt offset).locationError? = none := by
    rw [Finding.locationError?, hauthoritative, Option.map_some, hentry]
  have hlisted : (findingAt offset).listed? oneLineSource [] = some "C.sol" := by
    rw [Finding.listed?, hauthoritative, hread]
    rfl
  have hpath : (findingAt offset).path oneLineSource [] = "C.sol" := by
    rw [Finding.path, hlisted]
    rfl
  have htext : (findingAt offset).text? oneLineSource [] = some oneLine := by
    rw [Finding.text?, hlisted]
    rfl
  have hstarts : (LineTable.ofText oneLine).starts = [] := by decide +kernel
  refine ⟨(Diagnostic.unresolved (findingAt offset) (some "C.sol")).placed ⟨offset, 1⟩ oneLine
    (LineTable.ofText oneLine), Finding.isReadable_iff.2 hnone, ?_, rfl, ?_⟩
  · rw [Finding.filed, Finding.diagnose, hpath, htext, Diagnostic.ofFinding_of_none hnone, hread]
    rfl
  · -- the column is counted from the start of the file
    show offset + 1 - ((LineTable.ofText oneLine).upTo (offset + 1)).getLast?.getD 0 = offset + 1
    rw [LineTable.upTo, hstarts]
    rfl

/-! ## Batches -/

/-- **All reports of a batch state the same totals**, which are the numbers of its fatal diagnostics
and of the others. The compact report and the listing always do. The page does if it is written, and
that is so iff the place of each diagnostic can be. -/
theorem ofFindingsIn_totals (cwd : String) (findings : List Finding) (sources : Json.Members)
    (sourceList : List String) :
    ∃ reports, (Report.ofFindingsIn findings (.obj sources) (.texts sourceList)).1 = .ok reports ∧
      (∀ r ∈ reports, r.IsCounted ∧ r.messages ≠ []) ∧
      (reports ≠ [] → ∃ errors warnings,
        errors = (reports.flatMap Report.messages).countP Diagnostic.isFatal ∧
        warnings = (reports.flatMap Report.messages).countP (fun d => !d.isFatal) ∧
        errors + warnings = (reports.flatMap Report.messages).length ∧ 0 < errors + warnings ∧
        Report.StatesTotals cwd reports errors warnings ∧
        (Returns (Format.html.render cwd reports) ↔
          ∀ d ∈ reports.flatMap Report.messages, d.HasNumerals)) := by
  obtain ⟨filed, -, hreports⟩ := exists_filed sources sourceList findings
  have hcounted : ∀ r ∈ Report.ofFiled filed, r.IsCounted ∧ r.messages ≠ [] :=
    fun r hr => Report.isCounted_of_mem_ofFiled hr
  refine ⟨_, hreports, hcounted, fun hne => ?_⟩
  have hsome : (Report.ofFiled filed).flatMap Report.messages ≠ [] := by
    obtain ⟨r, hr⟩ := List.exists_mem_of_ne_nil _ hne
    exact fun hnil => (hcounted r hr).2 (List.flatMap_eq_nil_iff.1 hnil r hr)
  have hall := Report.countP_add_countP ((Report.ofFiled filed).flatMap Report.messages)
  exact ⟨_, _, rfl, rfl, hall, hall ▸ List.length_pos_iff.2 hsome,
    Report.statesTotals_of_isCounted cwd (fun r hr => (hcounted r hr).1) hsome,
    Report.returns_html.trans List.forall_mem_flatMap.symm⟩

/-- A warning with a line feed and a tag in its description, among an error that is reported twice:
all reports state one error and one warning. -/
theorem repeated_error_counts_once :
    let warning : Finding := { severity := some "Low", description := { head := "[/b]\n</p>" } }
    ∃ reports, (Report.ofFindingsIn [findingAt 0, warning, findingAt 0] (.obj oneLineSource)
        (.texts [])).1 = .ok reports ∧ reports ≠ [] ∧
      Report.StatesTotals "/work" reports 1 1 ∧ Returns (Format.html.render "/work" reports) := by
  intro warning
  have hcounts : (Report.ofFindingsIn [findingAt 0, warning, findingAt 0] (.obj oneLineSource)
      (.texts [])).1.toOption.map (fun reports =>
        ((reports.flatMap Report.messages).countP Diagnostic.isFatal,
          (reports.flatMap Report.messages).countP (fun d => !d.isFatal),
          (reports.flatMap Report.messages).all fun d =>
            [d.line, d.column, d.endLine, d.endColumn].all Text.fitsNumeral)) =
      some (1, 1, true) := by
    decide +kernel
  obtain ⟨reports, hreports, -, hstates⟩ :=
    ofFindingsIn_totals "/work" [findingAt 0, warning, findingAt 0] oneLineSource []
  rw [hreports] at hcounts
  obtain ⟨herrors, hcounts⟩ := Prod.mk.inj (Option.some.inj hcounts)
  obtain ⟨hwarnings, hshort⟩ := Prod.mk.inj hcounts
  have hne : reports ≠ [] := by
    rintro rfl
    cases herrors
  obtain ⟨_, _, rfl, rfl, -, -, htotals, hpage⟩ := hstates hne
  rw [herrors, hwarnings] at htotals
  refine ⟨reports, hreports, hne, htotals, hpage.2 fun d hd n hn => ?_⟩
  exact Text.fitsNumeral_iff.1 (List.all_eq_true.1 (List.all_eq_true.1 hshort d hd) n hn)

/-- **A range that ends beyond the numerals has no page.** The report of a finding at the last
offset that can be read states its totals in the compact report and in the listing. The range ends
one digit later, and no page is written. -/
theorem far_range_has_no_page :
    ∃ reports, (Report.ofFindingsIn [findingAt (10 ^ Text.maxDigits - 1)] (.obj oneLineSource)
        (.texts [])).1 = .ok reports ∧
      (reports.flatMap Report.messages).length = 1 ∧ Report.StatesTotals "/work" reports 1 0 ∧
      ¬ Returns (Format.html.render "/work" reports) := by
  have hlast : Text.fitsNumeral ((10 ^ Text.maxDigits - 1 : Nat) : Int) = true := by
    rw [Text.fitsNumeral_iff, Int.natAbs_natCast]
    exact Nat.sub_lt (Nat.pow_pos (by decide)) (by decide)
  obtain ⟨d, hread, hd, hfatal, hend⟩ := exists_filed_findingAt hlast
  obtain ⟨filed, hfiled, hreports⟩ :=
    exists_filed oneLineSource [] [findingAt (10 ^ Text.maxDigits - 1)]
  have hfiles : ([findingAt (10 ^ Text.maxDigits - 1)].filter Finding.isReadable).mapM
      (Finding.filed oneLineSource []) = .ok [("C.sol", d)] := by
    rw [List.filter_cons_of_pos hread, List.filter_nil]
    exact mapM_eq_ok_iff.2 (.cons hd .nil)
  obtain rfl := Except.ok.inj (hfiled.symm.trans hfiles)
  have hmessages : (Report.ofFiled [("C.sol", d)]).flatMap Report.messages = [d] := rfl
  refine ⟨_, hreports, by rw [hmessages]; rfl, ?_, ?_⟩
  · have hstates := Report.statesTotals_of_isCounted "/work"
      (fun r hr => (Report.isCounted_of_mem_ofFiled hr).1) (hmessages ▸ List.cons_ne_nil d [])
    simpa [hmessages, hfatal] using hstates
  · rw [Report.returns_html, ← List.forall_mem_flatMap, hmessages]
    intro h
    have hshort := h d (List.mem_singleton_self d) d.endColumn (by simp)
    have hlong : 10 ^ Text.maxDigits ≤ d.endColumn := by
      rw [hend]
      exact Nat.le_add_of_sub_le (Nat.le_refl _)
    exact absurd hshort (Nat.not_lt.2 hlong)

end ContractAudit
