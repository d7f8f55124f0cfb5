/-
  Texts that fit on a line.

  * `IsNarrow`: each character of a text takes one cell, whatever stands beside it.  The text takes
    as many cells as it has characters (`width_of_isNarrow`), and all of them reach the terminal
    (`IsNarrow.isPrintable`).
  * The words of a line are put on it one after the other as long as they fit, so that no break
    comes into one that fits as a whole (`breaks_of_length_le`).
  * `StyledText.wrap_of_length_le`: a line that fits is wrapped to itself.
-/
import Mathlib.Data.List.SplitBy
import ContractAudit.Proofs.Terminal.Printing
import ContractAudit.Proofs.Text.Numeral

namespace ContractAudit.Terminal

/-! ## Width -/

/-- Each character of the text takes one cell, whatever stands beside it. -/
def IsNarrow (s : List Char) : Prop :=
  ∀ c ∈ s, charWidth c = 1 ∧ c ≠ joiner ∧ c ≠ selector

instance (s : List Char) : Decidable (IsNarrow s) :=
  List.decidableBAll (fun c => charWidth c = 1 ∧ c ≠ joiner ∧ c ≠ selector) s

theorem isNarrow_append {s t : List Char} : IsNarrow (s ++ t) ↔ IsNarrow s ∧ IsNarrow t :=
  List.forall_mem_append

theorem IsNarrow.of_sublist {s t : List Char} (ht : IsNarrow t) (h : s.Sublist t) : IsNarrow s :=
  fun c hc => ht c (h.subset hc)

theorem widthAfter_of_isNarrow {s : List Char} (h : IsNarrow s) (last : Option Char) :
    widthAfter last s = s.length := by
  induction s generalizing last with
  | nil => rfl
  | cons c s ih =>
    obtain ⟨⟨hcell, hjoiner, hselector⟩, hs⟩ := List.forall_mem_cons.1 h
    have hj : ¬ (c == joiner) = true := by simpa using hjoiner
    have hv : ¬ (c == selector) = true := by simpa using hselector
    cases s with
    | nil => rw [widthAfter, if_neg hj, if_neg hv, hcell]; rfl
    | cons d s =>
      rw [widthAfter, if_neg hj, if_neg hv, ih hs, hcell, Nat.add_comm]
      rfl

/-- **A narrow text takes as many cells as it has characters.** -/
theorem width_of_isNarrow {s : List Char} (h : IsNarrow s) : width s = s.length :=
  widthAfter_of_isNarrow h none

theorem IsNarrow.notMem {s : List Char} (h : IsNarrow s) {c : Char} (hc : charWidth c ≠ 1) :
    c ∉ s :=
  fun hmem => hc (h c hmem).1

theorem IsNarrow.isPrintable {s : String} (h : IsNarrow s.toList) : IsPrintable s := by
  have hnone : ∀ n ∈ [7, 8, 9, 11, 12, 13], charWidth (Char.ofNat n) ≠ 1 := by decide +kernel
  intro c hc hcontrol
  have hwidth := hnone c.toNat hcontrol
  rw [Char.ofNat_toNat] at hwidth
  exact h.notMem hwidth hc

theorem isNarrow_showInt (n : Int) : IsNarrow (Text.showInt n).toList := by
  have hnumerals : IsNarrow ((List.range' 45 13).map Char.ofNat) := by decide +kernel
  intro c hc
  obtain ⟨hlo, hhi⟩ := Text.toNat_of_isNumeralChar (Json.isNumeralChar_of_mem_showInt hc)
  refine hnumerals c (List.mem_map.2 ⟨c.toNat, ?_, Char.ofNat_toNat c⟩)
  rw [List.mem_range'_1]
  omega

/-! ## Breaks -/

/-- The words of a line are the line, or there is none. -/
theorem flatten_words_prefix (s : List Char) : (words s).flatten <+: s := by
  rw [words]
  split
  · exact List.nil_prefix
  · next first rest hwords =>
    have hflatten := congrArg List.flatten hwords
    rw [List.flatten_splitBy, List.flatten_cons] at hflatten
    have hwhole : ((s.takeWhile Text.isBlank ++ first) :: rest).flatten = s := by
      rw [List.flatten_cons, List.append_assoc, ← hflatten, List.takeWhile_append_dropWhile]
    exact ⟨[], by rw [hwhole, List.append_nil]⟩

/-- Words that fit on the current line together do not break it. -/
theorem Filling.breaks_foldl_add (overflow : Overflow) {w : Nat} {ws : List (List Char)}
    (h : IsNarrow ws.flatten) {f : Filling} (hw : f.used + ws.flatten.length ≤ w) :
    (ws.foldl (Filling.add w overflow) f).breaks = f.breaks := by
  induction ws generalizing f with
  | nil => rfl
  | cons word ws ih =>
    rw [List.flatten_cons] at h hw
    obtain ⟨hword, hws⟩ := isNarrow_append.1 h
    rw [List.length_append] at hw
    have htrimmed : (Text.trimRight word).Sublist word := by
      simpa only [Text.trimRight, List.reverse_reverse] using
        (List.dropWhile_sublist (l := word.reverse) Text.isBlank).reverse
    have hfits : f.used + width (Text.trimRight word) ≤ w := by
      rw [width_of_isNarrow (hword.of_sublist htrimmed)]
      have := htrimmed.length_le
      omega
    rw [List.foldl_cons, Filling.add, if_pos hfits]
    refine ih hws ?_
    simp only [Filling.put, width_of_isNarrow hword]
    omega

/-- **A narrow line that fits is not broken.** -/
theorem breaks_of_length_le (overflow : Overflow) {w : Nat} {s : List Char} (h : IsNarrow s)
    (hw : s.length ≤ w) : breaks w overflow s = [] := by
  have hwords := flatten_words_prefix s
  have hlength := hwords.length_le
  have hfits : ({} : Filling).used + (words s).flatten.length ≤ w := by
    rw [Nat.zero_add]
    exact hlength.trans hw
  rw [breaks, Filling.breaks_foldl_add overflow (h.of_sublist hwords.sublist) hfits]
  rfl

namespace StyledText

/-! ## Lines -/

theorem withChars_self (t : StyledText) : t.withChars t.chars = t := by
  rw [withChars, if_neg (Nat.lt_irrefl _)]

theorem lines_of_notMem {t : StyledText} (h : '\n' ∉ t.chars) : t.lines = [t] := by
  have hnone : positions (· == '\n') t.chars = [] := by
    rw [positions, List.map_eq_nil_iff, List.filter_eq_nil_iff]
    rintro ⟨c, n⟩ hc heq
    have hmem : c ∈ t.chars := List.mem_of_getElem? (List.mem_zipIdx_iff_getElem?.1 hc)
    exact h (eq_of_beq heq ▸ hmem)
  simp only [lines, hnone]
  rfl

/-- **A narrow line that fits is wrapped to itself.** -/
theorem wrap_of_length_le (overflow : Overflow) {w : Nat} {t : StyledText} (h : IsNarrow t.chars)
    (hw : t.chars.length ≤ w) : t.wrap w overflow = [t] := by
  have hfeed : '\n' ∉ t.chars := h.notMem (by decide +kernel)
  have htab : '\t' ∉ t.chars := h.notMem (by decide +kernel)
  have htabs : t.expandTabs = t := if_neg (mt List.contains_iff_mem.1 htab)
  have hkept : t.dropExcessBlanks w = t := by
    rw [dropExcessBlanks]
    simp only [Nat.sub_eq_zero_of_le hw, Nat.zero_min, Nat.sub_zero, List.take_length]
    exact t.withChars_self
  have hfill : t.fill w overflow = [t] := by
    rw [fill, htabs, breaks_of_length_le overflow h hw, divide, if_pos List.isEmpty_nil,
      List.map_singleton, hkept]
  have hcut : t.truncate w overflow = t := if_pos (by rwa [width_of_isNarrow h])
  rw [wrap, lines_of_notMem hfeed, List.flatMap_singleton, hfill, List.map_singleton, hcut]

end StyledText

end ContractAudit.Terminal
