/-
  Import directives among blanks and comments.

  * A `Layout` is a source of directives, blanks and comments in any order, with or without line
    feeds between them.  The directives of the language have this form: the word `import` is no
    name, so that no further line of them begins with it (`Directive.IsProper`).
  * A search reads a layout in two states: only blanks stand before the next piece on its line, or
    something else does (`pathsIn`).  `Piece.pathsIn_text` is one piece: a directive is found in the
    first state only, and the complete directives that begin a line of a comment are found in both.
  * `importPaths_ofLayout`: so the imports are the directives that begin a line, those in comments
    among them; they are the directives of the source if all of these begin a line, and none in a
    comment does.  Otherwise they need not be (`crowded_imports_are_missed`).
-/
import Mathlib.Data.List.Infix
import ContractAudit.Proofs.Solidity.Lines

namespace ContractAudit.Solidity

/-! ## Texts without directives -/

/-- No line of the text after its first one begins with the word `import`. -/
def NoLaterImport (s : List Char) : Prop :=
  ∀ above below, s = above ++ '\n' :: below → ¬ BeginsImport below

section
variable {s rest : List Char} {c : Char}

theorem not_beginsImport_append (h : ¬ BeginsImport s) (hblank : Text.isBlank c = false)
    (hword : Text.isWord c = false) : ¬ BeginsImport (s ++ c :: rest) := by
  intro hbegins
  by_cases hs : ∀ d ∈ s, Text.isBlank d = true
  · refine (not_beginsImport_cons hblank hword : ¬ BeginsImport (c :: rest)) ?_
    rwa [BeginsImport, Text.trimLeft, List.dropWhile_append_of_pos hs] at hbegins
  · have hother : ∃ d ∈ s, Text.isBlank d = false := by simpa using hs
    refine h (hbegins.of_append hother ?_)
    rintro _ ⟨⟩
    exact hword

theorem pathsBelow_skip (h : NoLaterImport s) (hblank : Text.isBlank c = false)
    (hword : Text.isWord c = false) :
    pathsBelow (s ++ c :: rest) = pathsBelow (c :: rest) := by
  induction s with
  | nil => rfl
  | cons d s ih =>
    have hlater : NoLaterImport s := fun above below hs => h (d :: above) below (by rw [hs]; rfl)
    rw [List.cons_append]
    by_cases hd : d = '\n'
    · have hnone : ¬ BeginsImport s := h [] s (by rw [hd]; rfl)
      rw [hd, pathsBelow_feed,
        pathsFrom_of_not_beginsImport (not_beginsImport_append hnone hblank hword), ih hlater]
    · rw [pathsBelow_cons hd, ih hlater]

end

/-! ## Pieces -/

/-- What holds of the directives of the language: the path is on one line, and as the word is no
name no later line of the clause, or of what comes behind the path, begins with it. -/
structure Directive.IsProper (d : Directive) : Prop where
  path : '\n' ∉ d.path
  clause : NoLaterImport d.clause
  tail : NoLaterImport d.tail

/-- What a comment of several lines has between its ends. -/
def commentBody (first : List Char) (lines : List Line) : List Char :=
  first ++ lines.flatMap fun l => '\n' :: l.text

/-- A piece of a source: a blank, a directive, a comment up to the end of its line, or one between
ends of its own. The lines of the latter may be directives as well. -/
inductive Piece where
  | blank (c : Char) (isBlank_c : Text.isBlank c = true)
  | directive (d : Directive) (isProper : d.IsProper)
  | lineComment (text : List Char) (noBreak : '\n' ∉ text)
  | comment (first : List Char) (lines : List Line) (noBreak : '\n' ∉ first)
      (noEnd : ¬ ['*', '/'] <:+: commentBody first lines)

namespace Piece

/-- The text of a piece; a comment up to the end of its line has the line feed. -/
def text : Piece → List Char
  | blank c _ => [c]
  | directive d _ => d.text
  | lineComment text _ => '/' :: '/' :: (text ++ ['\n'])
  | comment first lines _ _ => '/' :: '*' :: (commentBody first lines ++ ['*', '/'])

/-- The path of the directive, if the piece is one. -/
def path? : Piece → Option String
  | directive d _ => some (String.ofList d.path)
  | _ => none

/-- The paths of the directives that begin a line of the comment, if the piece is one. -/
def hidden : Piece → List String
  | comment _ lines _ _ => lines.filterMap Line.path?
  | _ => []

/-- Whether only blanks stand on the line behind the piece, if `fresh` says whether only blanks
stand before it. -/
def leaves (fresh : Bool) : Piece → Bool
  | blank c _ => fresh || c == '\n'
  | lineComment .. => true
  | _ => false

/-- What is found of a piece. -/
def found (fresh : Bool) (p : Piece) : List String :=
  (if fresh then p.path?.toList else []) ++ p.hidden

end Piece

/-- The paths that are found in a text, where `fresh` says whether only blanks stand before it on
its line. -/
def pathsIn (fresh : Bool) (s : List Char) : List String :=
  if fresh then pathsFrom s else pathsBelow s

section
variable {more : List Char}

theorem pathsBelow_lines (lines : List Line) (h : EndsLine more) :
    pathsBelow ((lines.flatMap fun l => '\n' :: l.text) ++ more) =
      lines.filterMap Line.path? ++ pathsBelow more := by
  rw [List.filterMap_eq_flatMap_toList]
  induction lines with
  | nil => rfl
  | cons l lines ih =>
    have hends : EndsLine ((lines.flatMap fun l => '\n' :: l.text) ++ more) := by
      cases lines with
      | nil => exact h
      | cons l' lines => exact .feed _
    rw [List.flatMap_cons, List.cons_append, List.cons_append, pathsBelow_feed, List.append_assoc,
      l.pathsFrom_text hends, ih, List.flatMap_cons, List.append_assoc]

/-- In a directive that does not begin a line nothing is found. -/
theorem Directive.IsProper.pathsBelow_text {d : Directive} (h : d.IsProper) :
    pathsBelow (d.text ++ more) = pathsBelow more := by
  have hquote : Text.isBlank d.quote = false ∧ '\n' ≠ d.quote := by
    have := d.isQuote_quote
    rw [isQuote, Bool.or_eq_true, beq_iff_eq, beq_iff_eq] at this
    rcases this with hq | hq <;> simp [hq] <;> decide
  have hquoted : '\n' ∉ d.quote :: (d.path ++ [d.quote]) := by simp [hquote.2, h.path]
  have htext : d.text ++ more = importWord ++ (d.clause ++ d.quote ::
      (d.path ++ d.quote :: (d.tail ++ ';' :: more))) := by simp [Directive.text]
  have hpath : d.quote :: (d.path ++ d.quote :: (d.tail ++ ';' :: more)) =
      (d.quote :: (d.path ++ [d.quote])) ++ (d.tail ++ ';' :: more) := by simp
  rw [htext, pathsBelow_append (by decide),
    pathsBelow_skip h.clause hquote.1 (Directive.isWord_quote d.isQuote_quote), hpath,
    pathsBelow_append hquoted, pathsBelow_skip h.tail (by decide) (by decide +kernel),
    pathsBelow_cons (by decide)]

theorem pathsIn_slash (fresh : Bool) : pathsIn fresh ('/' :: more) = pathsBelow more := by
  have hbelow : pathsBelow ('/' :: more) = pathsBelow more := pathsBelow_cons (by decide)
  cases fresh with
  | false => exact hbelow
  | true =>
    refine (pathsFrom_of_not_beginsImport ?_).trans hbelow
    exact not_beginsImport_cons (by decide) (by decide +kernel)

/-- **What is found piece by piece**: a directive if it begins its line, and the directives that
begin a line of a comment. -/
theorem Piece.pathsIn_text (p : Piece) (fresh : Bool) :
    pathsIn fresh (p.text ++ more) = p.found fresh ++ pathsIn (p.leaves fresh) more := by
  cases p with
  | blank c hblank =>
    cases fresh with
    | true => exact pathsFrom_blanks (s := [c]) (by simpa using hblank)
    | false =>
      by_cases hc : c = '\n'
      · subst hc
        exact pathsBelow_feed
      · have hleaves : (Piece.blank c hblank).leaves false = false := by simp [Piece.leaves, hc]
        rw [hleaves]
        exact pathsBelow_cons hc
  | directive d hproper =>
    cases fresh with
    | true => exact d.pathsFrom_text more
    | false => exact hproper.pathsBelow_text
  | lineComment text hbreak =>
    have htext : (Piece.lineComment text hbreak).text ++ more =
        '/' :: '/' :: (text ++ '\n' :: more) := by simp [Piece.text]
    rw [htext, pathsIn_slash, pathsBelow_cons (by decide), pathsBelow_append hbreak,
      pathsBelow_feed]
    cases fresh <;> rfl
  | comment first lines hbreak hend =>
    have htext : (Piece.comment first lines hbreak hend).text ++ more =
        '/' :: '*' ::
          (first ++ ((lines.flatMap fun l => '\n' :: l.text) ++ '*' :: '/' :: more)) := by
      simp [Piece.text, commentBody]
    rw [htext, pathsIn_slash, pathsBelow_cons (by decide), pathsBelow_append hbreak,
      pathsBelow_lines lines (.comment more), pathsBelow_cons (by decide),
      pathsBelow_cons (by decide)]
    cases fresh <;> rfl

end

/-! ## Layouts -/

/-- What is found of some pieces. -/
def foundIn : (fresh : Bool) → List Piece → List String
  | _, [] => []
  | fresh, p :: pieces => p.found fresh ++ foundIn (p.leaves fresh) pieces

/-- Whether every directive among the pieces begins a line. -/
def beginLines : (fresh : Bool) → List Piece → Bool
  | _, [] => true
  | fresh, p :: pieces => (fresh || p.path?.isNone) && beginLines (p.leaves fresh) pieces

/-- A source of directives, blanks and comments; the last one may be a comment that ends with it. -/
structure Layout where
  pieces : List Piece
  last : List Char
  last_ok : last = [] ∨ ∃ text, last = '/' :: '/' :: text ∧ '\n' ∉ text

namespace Layout

/-- The text of a layout. -/
def source (s : Layout) : String :=
  String.ofList (s.pieces.flatMap Piece.text ++ s.last)

/-- The paths of the directives of a layout. -/
def paths (s : Layout) : List String :=
  s.pieces.filterMap Piece.path?

end Layout

/-- **What is found is found piece by piece.** -/
theorem pathsIn_flatMap (pieces : List Piece) (fresh : Bool) {last : List Char}
    (h : ∀ fresh, pathsIn fresh last = []) :
    pathsIn fresh (pieces.flatMap Piece.text ++ last) = foundIn fresh pieces := by
  induction pieces generalizing fresh with
  | nil => exact h fresh
  | cons p pieces ih =>
    rw [List.flatMap_cons, List.append_assoc, p.pathsIn_text, ih]
    rfl

/-- Directives that begin a line are all found, and nothing else if no comment holds one. -/
theorem foundIn_eq {pieces : List Piece} {fresh : Bool} (hlines : beginLines fresh pieces)
    (hhidden : ∀ p ∈ pieces, p.hidden = []) :
    foundIn fresh pieces = pieces.filterMap Piece.path? := by
  rw [List.filterMap_eq_flatMap_toList]
  induction pieces generalizing fresh with
  | nil => rfl
  | cons p pieces ih =>
    obtain ⟨hp, hpieces⟩ := List.forall_mem_cons.1 hhidden
    rw [beginLines, Bool.and_eq_true, Bool.or_eq_true, Option.isNone_iff_eq_none] at hlines
    obtain ⟨hbegins, hrest⟩ := hlines
    have hfound : p.found fresh = p.path?.toList := by
      rw [Piece.found, hp, List.append_nil]
      rcases hbegins with hfresh | hnone
      · rw [if_pos hfresh]
      · rw [hnone]
        exact ite_self []
    rw [foundIn, hfound, ih hrest hpieces, List.flatMap_cons]

/-- **The imports of a source are its directives that begin a line**, those in comments among them.
If all directives begin a line and no comment holds one that does, they are the directives of the
source. -/
theorem importPaths_ofLayout (s : Layout) :
    importPaths s.source = foundIn true s.pieces ∧
      (beginLines true s.pieces → (∀ p ∈ s.pieces, p.hidden = []) →
        importPaths s.source = s.paths) := by
  have hlast : ∀ fresh, pathsIn fresh s.last = [] := by
    intro fresh
    rcases s.last_ok with hlast | ⟨text, hlast, hbreak⟩
    · rw [hlast]
      cases fresh with
      | false => rfl
      | true => exact pathsFrom_of_none rfl
    · have hrest : '\n' ∉ '/' :: text := by simp [hbreak]
      rw [hlast, pathsIn_slash, ← List.append_nil ('/' :: text), pathsBelow_append hrest]
      rfl
  have hfound : importPaths s.source = foundIn true s.pieces := by
    rw [importPaths, Layout.source, String.toList_ofList]
    exact pathsIn_flatMap s.pieces true hlast
  exact ⟨hfound, fun hlines hhidden => hfound.trans (foundIn_eq hlines hhidden)⟩

/-- The directive that imports all of a file. -/
def Directive.plain (path : List Char) (path_ne_nil : path ≠ [])
    (path_plain : ∀ c ∈ path, isQuote c = false) : Directive where
  clause := [' ']
  quote := '"'
  path
  tail := []
  clause_apart := by
    rintro c ⟨⟩
    decide +kernel
  clause_plain := List.forall_mem_singleton.2 (by decide)
  isQuote_quote := rfl
  path_ne_nil
  path_plain
  tail_plain := List.not_mem_nil

theorem Directive.IsProper.of_oneLine {d : Directive} (h : '\n' ∉ d.text) : d.IsProper := by
  have hnone {part : List Char} (hpart : '\n' ∉ part) : NoLaterImport part := by
    rintro above below rfl
    exact absurd (by simp) hpart
  rw [Directive.text] at h
  simp only [List.mem_append, List.mem_cons, not_or] at h
  obtain ⟨-, hclause, -, hpath, -, htail, -⟩ := h
  exact ⟨hpath, hnone hclause, hnone htail⟩

/-- **A directive behind another one on its line is missed**, and one that begins a line of a
comment is found. -/
theorem crowded_imports_are_missed :
    let a := Directive.plain ['a'] (by decide) (List.forall_mem_singleton.2 rfl)
    let b := Directive.plain ['b'] (by decide) (List.forall_mem_singleton.2 rfl)
    let crowded : Layout :=
      ⟨[.directive a (.of_oneLine (by decide)), .blank ' ' rfl,
        .directive b (.of_oneLine (by decide))], [], .inl rfl⟩
    let commented : Layout :=
      ⟨[.comment []
        [.directive [] a [] (List.forall_mem_nil _) ⟨List.not_mem_nil, .inl rfl⟩,
          .filler [] List.not_mem_nil not_beginsImport_nil]
        List.not_mem_nil (by decide)], [], .inl rfl⟩
    crowded.source = "import \"a\"; import \"b\";" ∧ crowded.paths = ["a", "b"] ∧
      importPaths crowded.source = ["a"] ∧
      commented.source = "/*\nimport \"a\";\n*/" ∧ commented.paths = [] ∧
      importPaths commented.source = ["a"] := by
  decide +kernel

/-- A directive with others in comments behind it, and one on a later line. -/
theorem importPaths_ofLayout_commented :
    let a := Directive.plain ['a'] (by decide) (List.forall_mem_singleton.2 rfl)
    let d := Directive.plain ['d'] (by decide) (List.forall_mem_singleton.2 rfl)
    let s : Layout :=
      ⟨[.directive a (.of_oneLine (by decide)), .blank ' ' rfl,
        .lineComment " import 'b';".toList (by decide +kernel),
        .comment " import 'c'; ".toList [] (by decide +kernel) (by decide +kernel),
        .blank '\n' rfl, .directive d (.of_oneLine (by decide))], [], .inl rfl⟩
    s.source = "import \"a\"; // import 'b';\n/* import 'c'; */\nimport \"d\";" ∧
      beginLines true s.pieces ∧ (∀ p ∈ s.pieces, p.hidden = []) ∧
      s.paths = ["a", "d"] ∧ importPaths s.source = s.paths := by
  intro a d s
  have hlines : beginLines true s.pieces := by decide +kernel
  have hhidden : ∀ p ∈ s.pieces, p.hidden = [] := by decide +kernel
  refine ⟨by decide +kernel, hlines, hhidden, by decide +kernel, ?_⟩
  exact (importPaths_ofLayout s).2 hlines hhidden

end ContractAudit.Solidity
