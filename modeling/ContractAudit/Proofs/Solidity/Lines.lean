/-
  Import directives that begin a line.

  * `BeginsImport s`: the first word of a text is `import`.  A text that does not begin so has no
    directive on its first line (`pathsFrom_of_not_beginsImport`), and blanks before a directive do
    not count, line feeds among them (`pathsFrom_blanks`).
  * `Directive`: the parts of a complete directive; it is read as its path, and the text after its
    semicolon remains (`Directive.directive?_text`).
  * `Line`: a line without a directive, or a complete directive with the rest of its last line.
    `Line.pathsFrom_text` reads one, whatever lines come after it.
  * `importPaths_ofLines`: the imports of a source that is made of such lines are the paths of its
    directives.
-/
import ContractAudit.Proofs.Text.Blank
import ContractAudit.Solidity.Import

namespace ContractAudit.Solidity

/-! ## What is found below a line -/

section
variable {s rest path : List Char} {c : Char}

theorem after?_append (h : c ∉ s) : after? c (s ++ c :: rest) = some rest := by
  have hall : ∀ d ∈ s, (d != c) = true := fun d hd => by
    simp only [bne_iff_ne]
    rintro rfl
    exact h hd
  rw [after?, List.dropWhile_append_of_pos hall, List.dropWhile_cons_of_neg (by simp)]

/-- The paths that are found below the first line of a text. -/
def pathsBelow (s : List Char) : List String :=
  match after? '\n' s with
  | some next => pathsFrom next
  | none => []

@[simp] theorem pathsBelow_nil : pathsBelow [] = [] := rfl

@[simp] theorem pathsBelow_feed : pathsBelow ('\n' :: s) = pathsFrom s := by
  rw [pathsBelow, ← List.nil_append ('\n' :: s), after?_append List.not_mem_nil]

theorem pathsBelow_cons (h : c ≠ '\n') : pathsBelow (c :: s) = pathsBelow s := by
  rw [pathsBelow, pathsBelow, after?, List.dropWhile_cons_of_pos (by simpa using h), after?]

theorem pathsBelow_append (h : '\n' ∉ s) : pathsBelow (s ++ rest) = pathsBelow rest := by
  induction s with
  | nil => rfl
  | cons c s ih =>
    rw [List.mem_cons, not_or] at h
    rw [List.cons_append, pathsBelow_cons (Ne.symm h.1), ih h.2]

/-- After a directive the search goes on below the line where it ends. -/
theorem pathsFrom_of_directive? (h : directive? s = some (path, rest)) :
    pathsFrom s = String.ofList path :: pathsBelow rest := by
  rw [pathsFrom]
  split
  · next path' rest' h' =>
    rw [h] at h'
    cases h'
    rw [pathsBelow]
    split
    · next hnext => rw [hnext]
    · next hnext => rw [hnext]
  · next h' =>
    rw [h] at h'
    cases h'

theorem pathsFrom_of_none (h : directive? s = none) : pathsFrom s = pathsBelow s := by
  rw [pathsFrom]
  split
  · next h' =>
    rw [h] at h'
    cases h'
  · rw [pathsBelow]
    split
    · next hnext => rw [hnext]
    · next hnext => rw [hnext]

/-! ## First words -/

/-- The first word of a text, after blanks, is `import`. -/
def BeginsImport (s : List Char) : Prop :=
  ∃ rest, Text.trimLeft s = importWord ++ rest ∧ ∀ c ∈ rest.head?, Text.isWord c = false

theorem isWord_of_mem_importWord : ∀ c ∈ importWord, Text.isWord c = true :=
  List.all_eq_true.1 (by decide +kernel)

/-- What comes after a word does not go on with it. -/
theorem afterWord?_eq_some_iff {word : List Char} :
    afterWord? word s = some rest ↔ s = word ++ rest ∧ ∀ c ∈ rest.head?, Text.isWord c = false := by
  rw [afterWord?]
  by_cases hp : word.isPrefixOf s
  · obtain ⟨tail, rfl⟩ := List.isPrefixOf_iff_prefix.1 hp
    rw [if_pos hp, List.drop_left, List.append_cancel_left_eq]
    cases tail with
    | nil =>
      constructor
      · rintro ⟨⟩
        exact ⟨rfl, nofun⟩
      · rintro ⟨rfl, -⟩
        rfl
    | cons c tail =>
      dsimp only
      by_cases hc : Text.isWord c
      · rw [if_pos hc]
        refine ⟨nofun, ?_⟩
        rintro ⟨rfl, hrest⟩
        cases hc.symm.trans (hrest c rfl)
      · rw [if_neg hc, Option.some.injEq]
        refine ⟨?_, And.left⟩
        rintro rfl
        refine ⟨rfl, ?_⟩
        rintro _ ⟨⟩
        simpa using hc
  · rw [if_neg hp]
    refine ⟨nofun, fun ⟨hs, _⟩ => absurd ?_ hp⟩
    exact List.isPrefixOf_iff_prefix.2 (hs ▸ List.prefix_append _ _)

theorem pathsFrom_of_not_beginsImport (h : ¬ BeginsImport s) : pathsFrom s = pathsBelow s := by
  refine pathsFrom_of_none ?_
  have hword : afterWord? importWord (Text.trimLeft s) = none :=
    Option.eq_none_iff_forall_ne_some.2 fun rest hrest => h ⟨rest, afterWord?_eq_some_iff.1 hrest⟩
  rw [directive?, hword]
  rfl

/-- Blanks before a line do not count, line feeds among them. -/
theorem pathsFrom_blanks (h : ∀ c ∈ s, Text.isBlank c = true) :
    pathsFrom (s ++ rest) = pathsFrom rest := by
  induction s with
  | nil => rfl
  | cons c s ih =>
    obtain ⟨hc, hs⟩ := List.forall_mem_cons.1 h
    rw [List.cons_append, ← ih hs]
    have hsame : directive? (c :: (s ++ rest)) = directive? (s ++ rest) := by
      rw [directive?, directive?, Text.trimLeft, List.dropWhile_cons_of_pos hc, Text.trimLeft]
    cases hdirective : directive? (s ++ rest) with
    | some found =>
      rw [pathsFrom_of_directive? hdirective, pathsFrom_of_directive? (hsame.trans hdirective)]
    | none =>
      -- the blank itself may be the line feed
      rw [pathsFrom_of_none (hsame.trans hdirective)]
      by_cases hfeed : c = '\n'
      · rw [hfeed, pathsBelow_feed]
      · rw [pathsBelow_cons hfeed, pathsFrom_of_none hdirective]

theorem not_beginsImport_nil : ¬ BeginsImport [] := by
  rintro ⟨tail, htrim, -⟩
  cases htrim

theorem not_beginsImport_cons (hblank : Text.isBlank c = false) (hword : Text.isWord c = false) :
    ¬ BeginsImport (c :: rest) := by
  rintro ⟨tail, htrim, -⟩
  rw [Text.trimLeft_cons hblank] at htrim
  obtain ⟨rfl, -⟩ := List.cons.inj htrim
  cases hword.symm.trans (isWord_of_mem_importWord 'i' (by simp [importWord]))

/-- Whether a text begins with the word is seen on its part before a character that is in no word,
if that part has more than blanks. -/
theorem BeginsImport.of_append (h : BeginsImport (s ++ rest))
    (hs : ∃ c ∈ s, Text.isBlank c = false) (hrest : ∀ c ∈ rest.head?, Text.isWord c = false) :
    BeginsImport s := by
  obtain ⟨tail, htrim, htail⟩ := h
  have hnonempty : (s.dropWhile Text.isBlank).isEmpty = false := by
    obtain ⟨c, hc, hblank⟩ := hs
    rw [Bool.eq_false_iff, Ne, List.isEmpty_iff, List.dropWhile_eq_nil_iff]
    intro hall
    cases hblank.symm.trans (hall c hc)
  have hsplit : Text.trimLeft (s ++ rest) = Text.trimLeft s ++ rest := by
    rw [Text.trimLeft, List.dropWhile_append, if_neg (by simp [hnonempty]), Text.trimLeft]
  rw [hsplit] at htrim
  rcases List.append_eq_append_iff.1 htrim with ⟨word, hword, hrest'⟩ | ⟨word, hword, rfl⟩
  · -- the word would go on behind the part
    cases word with
    | nil => exact ⟨[], by simpa using hword.symm, by simp⟩
    | cons c word =>
      have hc : Text.isWord c = true := isWord_of_mem_importWord c (by simp [hword])
      cases hc.symm.trans (hrest c (by simp [hrest']))
  · refine ⟨word, hword, fun c hc => htail c ?_⟩
    rw [List.head?_append, hc]
    rfl

end

/-! ## Directives -/

/-- A complete directive: the word, a clause, a path between quotes, and what comes before the
semicolon. In the clause and behind the path stand what is imported and under which names. -/
structure Directive where
  clause : List Char
  quote : Char
  path : List Char
  tail : List Char
  /-- The clause is not part of the word. -/
  clause_apart : ∀ c ∈ clause.head?, Text.isWord c = false
  clause_plain : ∀ c ∈ clause, isQuote c = false ∧ c ≠ ';'
  isQuote_quote : isQuote quote = true
  path_ne_nil : path ≠ []
  path_plain : ∀ c ∈ path, isQuote c = false
  tail_plain : ';' ∉ tail

namespace Directive

variable (d : Directive) (rest : List Char)

/-- The text of a directive, up to its semicolon. -/
def text : List Char :=
  importWord ++ (d.clause ++ d.quote :: (d.path ++ d.quote :: (d.tail ++ [';'])))

theorem isWord_quote {c : Char} (h : isQuote c = true) : Text.isWord c = false := by
  rw [isQuote, Bool.or_eq_true, beq_iff_eq, beq_iff_eq] at h
  rcases h with rfl | rfl <;> decide +kernel

theorem quotedPath?_clause :
    quotedPath? (d.clause ++ d.quote :: (d.path ++ d.quote :: rest)) =
      some (d.path, d.quote :: rest) := by
  have hclause : ∀ c ∈ d.clause, (!isQuote c && c != ';') = true := fun c hc => by
    obtain ⟨hquote, hsemicolon⟩ := d.clause_plain c hc
    simp [hquote, hsemicolon]
  have hpath : ∀ c ∈ d.path, (!isQuote c) = true := fun c hc => by
    rw [d.path_plain c hc]
    rfl
  have htake : (d.path ++ d.quote :: rest).takeWhile (fun c => !isQuote c) = d.path := by
    rw [List.takeWhile_append_of_pos hpath, List.takeWhile_cons_of_neg (by simp [d.isQuote_quote]),
      List.append_nil]
  have hdrop : (d.path ++ d.quote :: rest).dropWhile (fun c => !isQuote c) = d.quote :: rest := by
    rw [List.dropWhile_append_of_pos hpath, List.dropWhile_cons_of_neg (by simp [d.isQuote_quote])]
  rw [quotedPath?, List.dropWhile_append_of_pos hclause,
    List.dropWhile_cons_of_neg (by simp [d.isQuote_quote])]
  dsimp only
  rw [htake, hdrop, if_neg (by simp [d.isQuote_quote, d.path_ne_nil])]

/-- **A directive is read as its path**, and what comes behind its semicolon remains. -/
theorem directive?_text : directive? (d.text ++ rest) = some (d.path, rest) := by
  have htext : d.text ++ rest =
      importWord ++ (d.clause ++ d.quote :: (d.path ++ d.quote :: (d.tail ++ ';' :: rest))) := by
    simp [text]
  have htrim : Text.trimLeft (d.text ++ rest) = d.text ++ rest :=
    Text.trimLeft_cons (by decide) _
  have hhead : ∀ c ∈ (d.clause ++ d.quote :: (d.path ++ d.quote :: (d.tail ++ ';' :: rest))).head?,
      Text.isWord c = false := by
    intro c hc
    cases hclause : d.clause with
    | nil =>
      rw [hclause] at hc
      cases hc
      exact isWord_quote d.isQuote_quote
    | cons x clause =>
      rw [hclause] at hc
      cases hc
      exact d.clause_apart _ (by rw [hclause]; rfl)
  have htail : ';' ∉ d.quote :: d.tail := by
    rw [List.mem_cons, not_or]
    refine ⟨?_, d.tail_plain⟩
    rintro hquote
    cases hquote ▸ d.isQuote_quote
  rw [directive?, htrim, htext, afterWord?_eq_some_iff.2 ⟨rfl, hhead⟩]
  simp only [Option.bind_eq_bind, Option.bind_some, quotedPath?_clause]
  rw [← List.cons_append, after?_append htail]
  rfl

theorem pathsFrom_text :
    pathsFrom (d.text ++ rest) = String.ofList d.path :: pathsBelow rest :=
  pathsFrom_of_directive? (d.directive?_text rest)

end Directive

/-! ## Lines -/

/-- The rest of a line: blanks, and perhaps a comment behind them. -/
def IsTrailer (s : List Char) : Prop :=
  '\n' ∉ s ∧ (Text.trimLeft s = [] ∨ ['/', '/'] <+: Text.trimLeft s)

/-- A line that does not begin with the word `import`, or the lines of a complete directive, with
blanks before it and the rest of its last line behind it. -/
inductive Line where
  | filler (text : List Char) (noBreak : '\n' ∉ text) (noImport : ¬ BeginsImport text)
  | directive (indent : List Char) (d : Directive) (trailer : List Char)
      (isBlank_indent : ∀ c ∈ indent, Text.isBlank c = true) (isTrailer : IsTrailer trailer)

namespace Line

/-- The text of a line, without the line feed at its end. -/
def text : Line → List Char
  | filler text _ _ => text
  | directive indent d trailer _ _ => indent ++ (d.text ++ trailer)

/-- The path of the directive, if the line is one. -/
def path? : Line → Option String
  | filler .. => none
  | directive _ d .. => some (String.ofList d.path)

/-- The text of some lines, with line feeds between them. -/
def source (lines : List Line) : String :=
  String.ofList (['\n'].intercalate (lines.map text))

end Line

/-- What may come behind a line: nothing, the next line or the end of a comment. -/
inductive EndsLine : List Char → Prop
  | nil : EndsLine []
  | feed (s : List Char) : EndsLine ('\n' :: s)
  | comment (s : List Char) : EndsLine ('*' :: '/' :: s)

section
variable {more : List Char}

theorem EndsLine.isWord_head (h : EndsLine more) : ∀ c ∈ more.head?, Text.isWord c = false := by
  cases h with
  | nil => exact nofun
  | feed | comment =>
    rintro _ ⟨⟩
    decide +kernel

/-- No directive is found before a line ends. -/
theorem EndsLine.pathsFrom_eq (h : EndsLine more) : pathsFrom more = pathsBelow more := by
  cases h with
  | nil => exact pathsFrom_of_none rfl
  | feed s =>
    rw [pathsBelow_feed, ← List.singleton_append,
      pathsFrom_blanks (List.forall_mem_singleton.2 rfl)]
  | comment s =>
    exact pathsFrom_of_not_beginsImport (not_beginsImport_cons (by decide) (by decide +kernel))

/-- **A line is read by itself**, whatever lines come behind it: nothing is found in a line without
a directive, and the path is found in one that is a directive. -/
theorem Line.pathsFrom_text (l : Line) (h : EndsLine more) :
    pathsFrom (l.text ++ more) = l.path?.toList ++ pathsBelow more := by
  cases l with
  | filler text hbreak himport =>
    by_cases hblank : ∀ c ∈ text, Text.isBlank c = true
    · exact (pathsFrom_blanks hblank).trans h.pathsFrom_eq
    · push Not at hblank
      refine (pathsFrom_of_not_beginsImport fun hbegins => himport ?_).trans
        (pathsBelow_append hbreak)
      have hother : ∃ c ∈ text, Text.isBlank c = false := by simpa using hblank
      exact hbegins.of_append hother h.isWord_head
  | directive indent d trailer hindent htrailer =>
    have hrest : pathsFrom (indent ++ (d.text ++ (trailer ++ more))) =
        String.ofList d.path :: pathsBelow more := by
      rw [pathsFrom_blanks hindent, d.pathsFrom_text, pathsBelow_append htrailer.1]
    simpa [Line.text, Line.path?] using hrest

/-- **The imports of a source are its directives that begin a line**, in order and each as often as
it stands there: of a source that is made of complete directives, and of lines that do not begin
with the word `import`, the paths of the former are found and nothing else. -/
theorem importPaths_ofLines (lines : List Line) :
    importPaths (Line.source lines) = lines.filterMap Line.path? := by
  rw [importPaths, Line.source, String.toList_ofList, List.filterMap_eq_flatMap_toList]
  induction lines with
  | nil => exact pathsFrom_of_none rfl
  | cons l lines ih =>
    cases lines with
    | nil =>
      have hline := l.pathsFrom_text .nil
      simpa using hline
    | cons l' lines =>
      have hline := l.pathsFrom_text (.feed (['\n'].intercalate ((l' :: lines).map Line.text)))
      rw [pathsBelow_feed, ih] at hline
      simpa using hline

end

end ContractAudit.Solidity
