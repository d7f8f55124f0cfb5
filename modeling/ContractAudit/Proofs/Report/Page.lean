/-
  The page of reports is a template with holes.

  * A `Part` of a page is text of the page itself, a number or a text from outside, which is written
    escaped.  `Slot` is a part without what fills it.
  * `pageTemplate` are the slots of a page line by line, by the shapes of its reports: how many rows
    there are, and in each whether it is fatal, has a tail and has a link.
  * `notMem_escape` and `unescape_escape`: an escaped text holds no markup and can be read back.
  * `html_template`: the page is its template, filled.  So no text adds a tag or ends an attribute:
    pages of one shape have the same angle brackets and quotes in the same order.
-/
import Mathlib.Data.List.Basic
import ContractAudit.Proofs.Json.Strings
import ContractAudit.Report.Html

namespace ContractAudit.Html

/-! ## Escaped texts -/

/-- The text that is written with the five entities. -/
def unescape : List Char → List Char
  | '&' :: 'a' :: 'm' :: 'p' :: ';' :: rest => '&' :: unescape rest
  | '&' :: 'l' :: 't' :: ';' :: rest => '<' :: unescape rest
  | '&' :: 'g' :: 't' :: ';' :: rest => '>' :: unescape rest
  | '&' :: 'q' :: 'u' :: 'o' :: 't' :: ';' :: rest => '"' :: unescape rest
  | '&' :: '#' :: 'x' :: '2' :: '7' :: ';' :: rest => '\'' :: unescape rest
  | c :: rest => c :: unescape rest
  | [] => []

/-- The characters that are written as entities. -/
def special : List Char := ['&', '<', '>', '"', '\'']

theorem escapeChar_of_notMem {c : Char} (h : c ∉ special) : escapeChar c = [c] := by
  simp only [special, List.mem_cons, List.not_mem_nil, or_false, not_or] at h
  obtain ⟨h₁, h₂, h₃, h₄, h₅⟩ := h
  simp [escapeChar, h₁, h₂, h₃, h₄, h₅]

theorem unescape_cons {c : Char} (h : c ≠ '&') (rest : List Char) :
    unescape (c :: rest) = c :: unescape rest := by
  rw [unescape] <;> exact fun _ hc => absurd hc h

/-- A written character is read back, whatever follows it. -/
theorem unescape_escapeChar (c : Char) (rest : List Char) :
    unescape (escapeChar c ++ rest) = c :: unescape rest := by
  by_cases h : c ∈ special
  · simp only [special, List.mem_cons, List.not_mem_nil, or_false] at h
    rcases h with rfl | rfl | rfl | rfl | rfl <;> rfl
  · rw [escapeChar_of_notMem h, List.singleton_append, unescape_cons]
    rintro rfl
    exact h (by decide)

/-- **An escaped text is read back.** -/
theorem unescape_escape (s : String) : unescape (escape s).toList = s.toList := by
  rw [escape, String.toList_ofList]
  induction s.toList with
  | nil => rfl
  | cons c cs ih => rw [List.flatMap_cons, unescape_escapeChar, ih]

/-- The characters by which a text could leave its place on a page. -/
def isMarkup (c : Char) : Bool :=
  c == '<' || c == '>' || c == '"' || c == '\''

theorem isMarkup_of_mem_escapeChar {c d : Char} (h : d ∈ escapeChar c) : isMarkup d = false := by
  by_cases hc : c ∈ special
  · have hall : (special.all fun c => (escapeChar c).all fun d => !isMarkup d) = true := rfl
    simpa using List.all_eq_true.1 (List.all_eq_true.1 hall c hc) d h
  · rw [escapeChar_of_notMem hc, List.mem_singleton] at h
    subst h
    simp only [special, List.mem_cons, List.not_mem_nil, or_false, not_or] at hc
    simp [isMarkup, hc]

/-- **An escaped text holds no markup.** -/
theorem notMem_escape {s : String} {d : Char} (h : d ∈ (escape s).toList) : isMarkup d = false := by
  rw [escape, String.toList_ofList, List.mem_flatMap] at h
  obtain ⟨c, -, hd⟩ := h
  exact isMarkup_of_mem_escapeChar hd

/-! ## Parts of a page -/

/-- A part of a page: text of the page itself, a number, or a text from outside. -/
inductive Part where
  | fixed (s : String)
  | number (n : Int)
  | text (s : String)

/-- A part without what fills it. -/
inductive Slot where
  | fixed (s : String)
  | number
  | text
deriving DecidableEq, Repr

/-- The slot that a part fills. -/
def Part.slot : Part → Slot
  | fixed s => .fixed s
  | number _ => .number
  | text _ => .text

/-- A part as it is written. -/
def Part.written : Part → String
  | fixed s => s
  | number n => Text.showInt n
  | text s => escape s

/-- A line of a page. -/
def lineText (line : List Part) : String :=
  String.join (line.map Part.written)

/-- A page, line by line. -/
def written (page : List (List Part)) : String :=
  Text.joined "\n" (page.map lineText)

@[simp] theorem lineText_nil : lineText [] = "" := rfl

@[simp] theorem lineText_cons (p : Part) (line : List Part) :
    lineText (p :: line) = p.written ++ lineText line := by
  rw [lineText, List.map_cons, String.join_cons]
  rfl

@[simp] theorem lineText_append (line more : List Part) :
    lineText (line ++ more) = lineText line ++ lineText more := by
  rw [lineText, List.map_append, String.join_append]
  rfl

/-- The markup that opens and closes tags and attributes, in order. -/
def marks (s : String) : List Char :=
  s.toList.filter fun c => c == '<' || c == '>' || c == '\''

/-- The markup of a slot, which is none unless its text is fixed. -/
def Slot.marks : Slot → List Char
  | fixed s => Html.marks s
  | number | text => []

theorem marks_append (s t : String) : marks (s ++ t) = marks s ++ marks t := by
  rw [marks, String.toList_append, List.filter_append]
  rfl

theorem marks_eq_nil {s : String} (h : ∀ c ∈ s.toList, isMarkup c = false) : marks s = [] := by
  rw [marks, List.filter_eq_nil_iff]
  intro c hc hmark
  have hnone := h c hc
  simp only [isMarkup, Bool.or_eq_false_iff] at hnone
  simp [hnone] at hmark

theorem isMarkup_of_isNumeralChar {c : Char} (h : Json.isNumeralChar c = true) :
    isMarkup c = false := by
  rw [Bool.eq_false_iff]
  intro hmark
  simp only [isMarkup, Bool.or_eq_true, beq_iff_eq] at hmark
  rcases hmark with ((rfl | rfl) | rfl) | rfl <;> cases h

/-- What fills a slot adds no markup to it. -/
theorem Part.marks_written (p : Part) : marks p.written = p.slot.marks := by
  cases p with
  | fixed s => rfl
  | number n =>
    exact marks_eq_nil fun c hc => isMarkup_of_isNumeralChar (Json.isNumeralChar_of_mem_showInt hc)
  | text s => exact marks_eq_nil fun c hc => notMem_escape hc

theorem marks_lineText (line : List Part) :
    marks (lineText line) = (line.map Part.slot).flatMap Slot.marks := by
  induction line with
  | nil => rfl
  | cons p line ih => rw [lineText_cons, marks_append, p.marks_written, ih]; rfl

theorem marks_joined (ss : List String) : marks (Text.joined "\n" ss) = ss.flatMap marks := by
  induction ss with
  | nil => rfl
  | cons s ss ih =>
    cases ss with
    | nil => simp [Text.joined]
    | cons t ss =>
      have hbreak : marks "\n" = [] := by decide
      rw [Text.joined, String.intercalate_cons_cons, marks_append, marks_append, ← Text.joined, ih,
        hbreak, List.append_nil]
      rfl

/-- **The markup of a page is that of its slots.** -/
theorem marks_written (page : List (List Part)) :
    marks (written page) =
      (page.map fun line => line.map Part.slot).flatMap fun line => line.flatMap Slot.marks := by
  rw [written, marks_joined, List.flatMap_map, List.flatMap_map]
  exact List.flatMap_congr fun line _ => marks_lineText line

end ContractAudit.Html

namespace ContractAudit.Report

open Html

/-! ## Templates -/

/-- What the layout of a row depends on. -/
structure RowShape where
  isFatal : Bool
  hasTail : Bool
  hasLink : Bool
deriving DecidableEq, Repr

/-- The long description of the finding of a diagnostic. -/
def tailOf (d : Diagnostic) : String :=
  (d.finding.map fun f => f.description.tail).getD ""

/-- The shape of the row of a diagnostic. -/
def rowShape (d : Diagnostic) : RowShape :=
  { isFatal := d.isFatal, hasTail := tailOf d ≠ "", hasLink := d.ruleLink ≠ noRuleLink }

/-- The shapes of the rows of a report. -/
def shape (r : Report) : List RowShape :=
  r.messages.map rowShape

/-- The word for the severity of a row. -/
def RowShape.label (s : RowShape) : String :=
  if s.isFatal then "error" else "warning"

/-- The slots of a tail, if there is one. -/
def tailTemplate (hasTail : Bool) : List Slot :=
  if hasTail then [.fixed "<pre>", .text, .fixed "</pre>"] else []

/-- The slots of a link, or of what stands for a missing one. -/
def linkTemplate (hasLink : Bool) : List Slot :=
  if hasLink then [.fixed "<a href='", .text, .fixed "'>", .text, .fixed "</a>"]
  else [.fixed noRuleLink]

/-- The slots of the cells with position, severity and message. -/
def cellTemplate (s : RowShape) : List Slot :=
  [.fixed "<tr><td>", .number, .fixed ":", .number, .fixed "&ndash;", .number, .fixed ":", .number,
    .fixed "</td>", .fixed ("<td class='" ++ s.label ++ "'>"), .text, .fixed "</td>",
    .fixed "<td>", .text]

/-- The slots of a row. -/
def rowTemplate (s : RowShape) : List Slot :=
  cellTemplate s ++ tailTemplate s.hasTail ++ Slot.fixed "</td><td>" :: linkTemplate s.hasLink ++
    [Slot.fixed "</td></tr>"]

/-- The slots of the lines of a report: its path, the head of its table and its rows. -/
def tableTemplate (rows : List RowShape) : List (List Slot) :=
  [[.fixed "<h3>", .text, .fixed "</h3>"],
    [.fixed ("<table><thead><tr><th>Location</th><th>Severity</th>" ++
      "<th>Issue</th><th>SWC</th></tr></thead><tbody>")]] ++
  rows.map rowTemplate ++ [[.fixed "</tbody></table>"]]

/-- The slots of the lines of a page. -/
def pageTemplate (shapes : List (List RowShape)) : List (List Slot) :=
  [[.fixed "<!doctype html>"],
    [.fixed "<html><head><meta charset='utf-8'><title>MythX Report</title>"],
    [.fixed ("<style>" ++ styleSheet ++ "</style>")],
    [.fixed "</head><body>"],
    [.fixed "<h2>MythX Report</h2>"],
    [.fixed "<p>", .number, .fixed " problem(s): ", .number, .fixed " error(s), ", .number,
      .fixed " warning(s)", .fixed "</p>"]] ++
  shapes.flatMap tableTemplate ++ [[.fixed "</body></html>"]]

/-! ## Pages -/

/-- The parts of a tail. -/
def tailParts (tail : String) : List Part :=
  if tail = "" then [] else [.fixed "<pre>", .text tail, .fixed "</pre>"]

/-- The parts of a link. -/
def linkParts (url : String) : List Part :=
  if url = noRuleLink then [.fixed noRuleLink]
  else [.fixed "<a href='", .text url, .fixed "'>", .text url, .fixed "</a>"]

/-- The parts of the cells with position, severity and message. -/
def cellParts (d : Diagnostic) : List Part :=
  [.fixed "<tr><td>", .number d.line, .fixed ":", .number d.column, .fixed "&ndash;",
    .number d.endLine, .fixed ":", .number d.endColumn, .fixed "</td>",
    .fixed ("<td class='" ++ (rowShape d).label ++ "'>"),
    .text (severityText d (rowShape d).label), .fixed "</td>",
    .fixed "<td>", .text d.message]

/-- The parts of a row. -/
def rowParts (d : Diagnostic) : List Part :=
  cellParts d ++ tailParts (tailOf d) ++ Part.fixed "</td><td>" :: linkParts d.ruleLink ++
    [Part.fixed "</td></tr>"]

/-- The parts of the lines of a report. -/
def tableParts (r : Report) : List (List Part) :=
  [[.fixed "<h3>", .text r.filePath, .fixed "</h3>"],
    [.fixed ("<table><thead><tr><th>Location</th><th>Severity</th>" ++
      "<th>Issue</th><th>SWC</th></tr></thead><tbody>")]] ++
  r.messages.map rowParts ++ [[.fixed "</tbody></table>"]]

/-- The parts of the lines of a page. -/
def pageParts (rs : List Report) : List (List Part) :=
  [[.fixed "<!doctype html>"],
    [.fixed "<html><head><meta charset='utf-8'><title>MythX Report</title>"],
    [.fixed ("<style>" ++ styleSheet ++ "</style>")],
    [.fixed "</head><body>"],
    [.fixed "<h2>MythX Report</h2>"],
    [.fixed "<p>", .number (errors rs + warnings rs), .fixed " problem(s): ", .number (errors rs),
      .fixed " error(s), ", .number (warnings rs), .fixed " warning(s)", .fixed "</p>"]] ++
  rs.flatMap tableParts ++ [[.fixed "</body></html>"]]

theorem slot_rowParts (d : Diagnostic) :
    (rowParts d).map Part.slot = rowTemplate (rowShape d) := by
  have htail : (tailParts (tailOf d)).map Part.slot = tailTemplate (rowShape d).hasTail := by
    by_cases h : tailOf d = "" <;> simp [tailParts, tailTemplate, rowShape, Part.slot, h]
  have hlink : (linkParts d.ruleLink).map Part.slot = linkTemplate (rowShape d).hasLink := by
    by_cases h : d.ruleLink = noRuleLink <;>
      simp [linkParts, linkTemplate, rowShape, Part.slot, h]
  have hcells : (cellParts d).map Part.slot = cellTemplate (rowShape d) := rfl
  simp only [rowParts, rowTemplate, List.map_append, List.map_cons, List.map_nil, hcells, htail,
    hlink, Part.slot]

theorem slot_tableParts (r : Report) :
    (tableParts r).map (fun line => line.map Part.slot) = tableTemplate r.shape := by
  simp [tableParts, tableTemplate, shape, Part.slot, slot_rowParts]

theorem slot_pageParts (rs : List Report) :
    (pageParts rs).map (fun line => line.map Part.slot) = pageTemplate (rs.map shape) := by
  simp [pageParts, pageTemplate, Part.slot, slot_tableParts, List.map_flatMap, List.flatMap_map]

theorem lineText_tailParts (tail : String) :
    lineText (tailParts tail) = if tail = "" then "" else "<pre>" ++ escape tail ++ "</pre>" := by
  rw [tailParts]
  split <;> simp [Part.written, String.append_assoc]

theorem lineText_linkParts (url : String) :
    lineText (linkParts url) = if url = noRuleLink then noRuleLink
      else "<a href='" ++ escape url ++ "'>" ++ escape url ++ "</a>" := by
  rw [linkParts]
  split <;> simp [Part.written, String.append_assoc]

/-- A row is what its parts write. -/
theorem htmlRow_eq (d : Diagnostic) : htmlRow d = lineText (rowParts d) := by
  have hrow : htmlRow d =
      "<tr><td>" ++ Text.showInt d.line ++ ":" ++ Text.showInt d.column ++ "&ndash;" ++
        Text.showInt d.endLine ++ ":" ++ Text.showInt d.endColumn ++ "</td>" ++
        "<td class='" ++ (rowShape d).label ++ "'>" ++
        escape (severityText d (rowShape d).label) ++ "</td>" ++ "<td>" ++ (escape d.message ++
        (if tailOf d = "" then "" else "<pre>" ++ escape (tailOf d) ++ "</pre>")) ++ "</td><td>" ++
        (if d.ruleLink = noRuleLink then noRuleLink
          else "<a href='" ++ escape d.ruleLink ++ "'>" ++ escape d.ruleLink ++ "</a>") ++
        "</td></tr>" := by
    unfold htmlRow tailOf
    dsimp only [rowShape, RowShape.label]
  rw [hrow, ← lineText_tailParts, ← lineText_linkParts, rowParts, cellParts]
  simp only [lineText_append, lineText_cons, lineText_nil, Part.written, String.append_assoc,
    String.append_empty]

theorem htmlTable_eq (r : Report) : htmlTable r = (tableParts r).map lineText := by
  have hrows : r.messages.map htmlRow = (r.messages.map rowParts).map lineText := by
    simp only [List.map_map, Function.comp_def, ← htmlRow_eq]
  rw [htmlTable, hrows, tableParts]
  simp [Part.written, String.append_assoc]

/-- **The page is what its parts write.** -/
theorem html_eq_written (rs : List Report) : html rs = written (pageParts rs) := by
  have htables : rs.flatMap htmlTable = (rs.flatMap tableParts).map lineText := by
    rw [List.map_flatMap]
    exact List.flatMap_congr fun r _ => htmlTable_eq r
  rw [html, htables, written, pageParts]
  simp only [List.map_append, List.map_cons, List.map_nil, lineText_cons, lineText_nil,
    Part.written, String.append_assoc, String.append_empty]

/-- **No text from outside gets out of its hole.** The page is its template with a number or an
escaped text in each hole; such a text holds no markup and is read back from its entities.  So
pages of one shape have the same tags and attributes, whatever the texts in them are. -/
theorem html_template (rs : List Report) :
    html rs = written (pageParts rs) ∧
    (pageParts rs).map (fun line => line.map Part.slot) = pageTemplate (rs.map shape) ∧
    (∀ s : String, (∀ c ∈ (escape s).toList, c ≠ '<' ∧ c ≠ '>' ∧ c ≠ '"' ∧ c ≠ '\'') ∧
      unescape (escape s).toList = s.toList) ∧
    ∀ others : List Report, others.map shape = rs.map shape →
      marks (html others) = marks (html rs) := by
  refine ⟨html_eq_written rs, slot_pageParts rs, fun s => ⟨fun c hc => ?_, unescape_escape s⟩,
    fun others hshapes => ?_⟩
  · have hnone := notMem_escape hc
    simpa [isMarkup, and_assoc] using hnone
  · rw [html_eq_written, html_eq_written, marks_written, marks_written, slot_pageParts,
      slot_pageParts, hshapes]

/-- Texts that try to open tags, to end an attribute and to imitate an entity. -/
theorem html_template_hostile :
    let hostile : List Report := [{
      filePath := "<script>", messages := [{
        filePath := "", message := "</td><td onclick='x'>", ruleLink := "'><a href='",
        vendorSeverity := some "\"&lt;b&gt;"
        finding := some { description := { tail := "</pre><pre class='&amp;'>" } } }] }]
    let plain : List Report := [{
      filePath := "a.sol", messages := [{
        filePath := "", message := "m", line := 7, ruleLink := "l"
        finding := some { description := { tail := "t" } } }] }]
    hostile.map shape = plain.map shape ∧ marks (html hostile) = marks (html plain) := by
  intro hostile plain
  have hshapes : hostile.map shape = plain.map shape := by decide
  obtain ⟨-, -, -, hmarks⟩ := html_template plain
  exact ⟨hshapes, hmarks hostile hshapes⟩

end ContractAudit.Report
