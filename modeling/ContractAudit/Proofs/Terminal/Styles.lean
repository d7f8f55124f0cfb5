/-
  The styles of text that is cut, filled up and put in a table.

  * `StyledText.Styles P`: `P` holds of the style of every stretch.  All that is done to a text on
    its way to the cell of a table keeps that (`Styles.aligned`, `styles_tableTexts`);
  * `returns_resolveStyles`: the styles are found out iff none names a colour by what is no number.
-/
import ContractAudit.Proofs.Answers
import ContractAudit.Terminal.Markup
import ContractAudit.Terminal.Table

namespace ContractAudit.Terminal

variable {P : Option String → Prop} {t : StyledText}

/-- `P` holds of the style of every stretch. -/
def StyledText.Styles (P : Option String → Prop) (t : StyledText) : Prop :=
  ∀ s ∈ t.stretches, P s.style

namespace StyledText.Styles

theorem of_nil (h : t.stretches = []) : t.Styles P := by
  rw [Styles, h]
  exact nofun

/-! ## Cutting and filling up -/

theorem slice (h : t.Styles P) (start stop : Nat) : (t.slice start stop).Styles P := by
  intro s hs
  obtain ⟨s', hs', hwithin⟩ := List.mem_filterMap.1 hs
  rw [Stretch.within?] at hwithin
  split at hwithin
  · cases hwithin
    exact h s' hs'
  · cases hwithin

theorem slices (h : t.Styles P) (bounds : List (Nat × Nat)) :
    ∀ l ∈ bounds.map (fun b => t.slice b.1 b.2), l.Styles P := by
  intro l hl
  obtain ⟨b, -, rfl⟩ := List.mem_map.1 hl
  exact h.slice _ _

theorem divide (h : t.Styles P) (ps : List Nat) : ∀ l ∈ t.divide ps, l.Styles P := by
  rw [StyledText.divide]
  split
  · exact List.forall_mem_singleton.2 h
  · exact h.slices _

theorem lines (h : t.Styles P) : ∀ l ∈ t.lines, l.Styles P := by
  rw [StyledText.lines]
  split
  · exact List.forall_mem_singleton.2 h
  · exact h.slices _

theorem withChars (h : t.Styles P) (chars : List Char) : (t.withChars chars).Styles P := by
  intro s hs
  rw [StyledText.withChars] at hs
  split at hs
  · obtain ⟨s', hs', hupTo⟩ := List.mem_filterMap.1 hs
    rw [Stretch.upTo?] at hupTo
    split at hupTo
    · cases hupTo
      exact h s' hs'
    · cases hupTo
  · exact h s hs

theorem padRight (h : t.Styles P) (n : Nat) : (t.padRight n).Styles P :=
  h

theorem padLeft (h : t.Styles P) (n : Nat) : (t.padLeft n).Styles P :=
  List.forall_mem_map.2 h

theorem trimRight (h : t.Styles P) : t.trimRight.Styles P :=
  h.withChars _

theorem truncate (h : t.Styles P) (w : Nat) (overflow : Overflow) :
    (t.truncate w overflow).Styles P := by
  unfold StyledText.truncate
  split
  · exact h
  · exact h.withChars _

/-! ## Tabs -/

theorem expandTab (h : t.Styles P) (col : Nat) : (t.expandTab col).1.Styles P := by
  rw [StyledText.expandTab]
  split
  · refine List.forall_mem_map.2 fun s hs => ?_
    split
    · exact h s hs
    · exact h s hs
  · exact h

theorem expandParts {parts : List StyledText} (h : ∀ p ∈ parts, p.Styles P) (col : Nat) :
    ∀ p ∈ StyledText.expandParts col parts, p.Styles P := by
  induction parts generalizing col with
  | nil => exact nofun
  | cons p parts ih =>
    obtain ⟨hp, hparts⟩ := List.forall_mem_cons.1 h
    exact List.forall_mem_cons.2 ⟨hp.expandTab col, ih hparts _⟩

theorem joinedStretches (hnone : P none) {parts : List StyledText} (h : ∀ p ∈ parts, p.Styles P)
    (pos : Nat) : ∀ s ∈ StyledText.joinedStretches pos parts, P s.style := by
  induction parts generalizing pos with
  | nil => exact nofun
  | cons p parts ih =>
    obtain ⟨hp, hparts⟩ := List.forall_mem_cons.1 h
    simp only [StyledText.joinedStretches, List.forall_mem_append]
    refine ⟨⟨?_, List.forall_mem_map.2 hp⟩, ih hparts _⟩
    split
    · exact List.forall_mem_singleton.2 hnone
    · exact nofun

theorem expandTabs (hnone : P none) (h : t.Styles P) : t.expandTabs.Styles P := by
  rw [StyledText.expandTabs]
  split
  · exact joinedStretches hnone
      (expandParts (fun p hp => h.divide _ p (List.mem_of_mem_filter hp)) 0) 0
  · exact h

/-! ## Lines -/

theorem fill (hnone : P none) (h : t.Styles P) (w : Nat) (overflow : Overflow) :
    ∀ l ∈ t.fill w overflow, l.Styles P :=
  List.forall_mem_map.2 fun p hp => ((h.expandTabs hnone).divide _ p hp).withChars _

theorem align (h : t.Styles P) (w : Nat) (overflow : Overflow) (a : Alignment) :
    (t.align w overflow a).Styles P := by
  cases a with
  | left => exact (h.truncate w overflow).padRight _
  | right => exact (h.trimRight.truncate w overflow).padLeft _
  | center => exact ((h.trimRight.truncate w overflow).padLeft _).padRight _

/-- **Lines have the styles of their text.** -/
theorem aligned (hnone : P none) (h : t.Styles P) (w : Nat) (overflow : Overflow) (a : Alignment) :
    ∀ l ∈ t.aligned w overflow a, l.Styles P := by
  rw [StyledText.aligned]
  refine List.forall_mem_flatMap.2 fun l hl => List.forall_mem_map.2 fun p hp => ?_
  exact ((h.lines l hl).fill hnone w overflow p hp).align w overflow a

end StyledText.Styles

/-- **The cells of a table have the styles of its texts.** -/
theorem styles_tableTexts (hnone : P none) (available : Nat) (b : Border) (styles : List Style)
    {header rows : List (List StyledText)}
    (h : ∀ row ∈ header ++ rows, ∀ t ∈ row, t.Styles P) :
    ∀ t ∈ tableTexts available b styles header rows, t.Styles P := by
  intro l hl
  obtain ⟨row, hrow, hl⟩ := List.mem_flatMap.1 hl
  obtain ⟨⟨style, w, t⟩, hcell, hl⟩ := List.mem_flatMap.1 hl
  have ht : t ∈ row := (List.of_mem_zip (List.of_mem_zip hcell).2).2
  simp only [Style.cellTexts] at hl
  split at hl
  · cases hl
  · exact (h row hrow t ht).aligned hnone _ _ _ l hl

/-! ## Colours -/

/-- The description of a style, if there is one, gives no colour by numbers of which one is no
numeral. -/
def HasColours (style : Option String) : Prop :=
  ∀ description ∈ style, readStyle description.toList ≠ .error .badNumber

/-- The styles of a text are found out iff its colours are. -/
theorem returns_resolveStyles : Returns t.resolveStyles ↔ t.Styles HasColours := by
  rw [StyledText.resolveStyles, Returns.forM_iff]
  refine forall₂_congr fun s _ => ?_
  cases hstyle : s.style with
  | none => simp [HasColours]
  | some description =>
    cases hread : readStyle description.toList with
    | ok d => simp [HasColours, hread]
    | error e => cases e <;> simp [HasColours, hread]

end ContractAudit.Terminal
