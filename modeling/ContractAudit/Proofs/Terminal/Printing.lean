/-
  Texts as they are printed.

  * `StyledText.SameChars`: two texts differ at most in their styles.  They are printed alike
    (`StyledText.SameChars.printed_eq`).
  * `flatMap_lines`: the lines of a text, with a line feed after each, are the text.
  * `IsPrintable`: every character of a text reaches the terminal, and none of them is a tab.  Such
    a text is printed as it is (`unwrapped_of_isPrintable`).
-/
import Mathlib.Data.List.Forall2
import ContractAudit.Terminal.Console

namespace ContractAudit.Terminal

/-! ## Styles -/

namespace StyledText

/-- The texts differ at most in their styles. -/
def SameChars (t u : StyledText) : Prop :=
  t.chars = u.chars

namespace SameChars

variable {t u : StyledText}

theorem slice (h : t.SameChars u) (start stop : Nat) :
    (t.slice start stop).SameChars (u.slice start stop) := by
  rw [SameChars, StyledText.slice, StyledText.slice, h]

theorem slices (h : t.SameChars u) (bounds : List (Nat × Nat)) :
    List.Forall₂ SameChars (bounds.map fun b => t.slice b.1 b.2)
      (bounds.map fun b => u.slice b.1 b.2) := by
  rw [List.forall₂_map_left_iff, List.forall₂_map_right_iff, List.forall₂_same]
  exact fun b _ => h.slice b.1 b.2

theorem divide (h : t.SameChars u) (ps : List Nat) :
    List.Forall₂ SameChars (t.divide ps) (u.divide ps) := by
  rw [StyledText.divide, StyledText.divide, h]
  split
  · exact .cons h .nil
  · exact h.slices _

theorem lines (h : t.SameChars u) : List.Forall₂ SameChars t.lines u.lines := by
  rw [StyledText.lines, StyledText.lines, h]
  dsimp only
  split
  · exact .cons h .nil
  · exact h.slices _

theorem map_chars_eq {l m : List StyledText} (h : List.Forall₂ SameChars l m) :
    l.map chars = m.map chars := by
  induction h with
  | nil => rfl
  | cons h _ ih => rw [List.map_cons, List.map_cons, h, ih]

/-! ### Tabs -/

theorem expandTab (h : t.SameChars u) (col : Nat) :
    (t.expandTab col).1.SameChars (u.expandTab col).1 ∧
      (t.expandTab col).2 = (u.expandTab col).2 := by
  rw [StyledText.expandTab, StyledText.expandTab, h]
  split
  · exact ⟨rfl, rfl⟩
  · exact ⟨h, rfl⟩

theorem expandParts {l m : List StyledText} (h : List.Forall₂ SameChars l m) (col : Nat) :
    List.Forall₂ SameChars (StyledText.expandParts col l) (StyledText.expandParts col m) := by
  induction h generalizing col with
  | nil => exact .nil
  | cons h _ ih =>
    obtain ⟨hpart, hcol⟩ := h.expandTab col
    rw [StyledText.expandParts, StyledText.expandParts, hcol]
    exact .cons hpart (ih _)

theorem expandTabs (h : t.SameChars u) : t.expandTabs.SameChars u.expandTabs := by
  rw [StyledText.expandTabs, StyledText.expandTabs, h]
  split
  · have hparts := List.rel_filter (p := fun p : StyledText => !p.chars.isEmpty)
      (q := fun p : StyledText => !p.chars.isEmpty)
      (fun p q (hpq : p.chars = q.chars) => by dsimp only; rw [hpq])
      (h.divide ((positions (· == '\t') u.chars).map (· + 1)))
    have hchars := map_chars_eq (expandParts hparts 0)
    rw [SameChars]
    dsimp only
    rw [List.flatMap_def, hchars, ← List.flatMap_def]
  · exact h

/-- **Styles do not show.** -/
theorem printed_eq (h : t.SameChars u) :
    printed (t.lines.map StyledText.expandTabs) = printed (u.lines.map StyledText.expandTabs) := by
  have hlines : List.Forall₂ SameChars (t.lines.map StyledText.expandTabs)
      (u.lines.map StyledText.expandTabs) := by
    rw [List.forall₂_map_left_iff, List.forall₂_map_right_iff]
    exact h.lines.imp fun _ _ h => h.expandTabs
  have hchars := congrArg (·.flatMap (· ++ ['\n'])) (map_chars_eq hlines)
  rw [printed, printed]
  simpa only [List.flatMap_map] using congrArg String.ofList hchars

end SameChars

/-! ## Lines -/

/-- The positions of the line feeds in a text that begins at a position. -/
def lineFeedsFrom (n : Nat) (s : List Char) : List Nat :=
  ((s.zipIdx n).filter fun c => c.1 == '\n').map (·.2)

theorem lineFeedsFrom_feed (n : Nat) (s : List Char) :
    lineFeedsFrom n ('\n' :: s) = n :: lineFeedsFrom (n + 1) s := by
  simp [lineFeedsFrom]

theorem lineFeedsFrom_cons {c : Char} (hc : c ≠ '\n') (n : Nat) (s : List Char) :
    lineFeedsFrom n (c :: s) = lineFeedsFrom (n + 1) s := by
  simp [lineFeedsFrom, hc]

/-- The parts between line feeds, from the beginning of a line on of which some has been read. -/
theorem flatMap_between (before line rest : List Char) {n stop : Nat}
    (hn : n = before.length + line.length) (hstop : stop = n + rest.length) :
    ((before.length :: (lineFeedsFrom n rest).map (· + 1)).zip
        (lineFeedsFrom n rest ++ [stop])).flatMap
        (fun b => ((before ++ line ++ rest).drop b.1).take (b.2 - b.1) ++ ['\n']) =
      line ++ rest ++ ['\n'] := by
  induction rest generalizing before line n with
  | nil => simp [lineFeedsFrom, hn, hstop]
  | cons c rest ih =>
    have hstop' : stop = n + 1 + rest.length := by
      rw [hstop, List.length_cons, Nat.add_right_comm, Nat.add_assoc]
    by_cases hc : c = '\n'
    · -- the line ends, and another one begins after the line feed
      subst hc
      have hrest := ih (before ++ line ++ ['\n']) [] (n := n + 1) (by simp [hn, Nat.add_assoc])
        hstop'
      rw [lineFeedsFrom_feed, List.map_cons, List.cons_append, List.zip_cons_cons,
        List.flatMap_cons]
      have hlength : (before ++ line ++ ['\n']).length = n + 1 := by simp [hn, Nat.add_assoc]
      rw [hlength] at hrest
      simp only [List.append_assoc, List.singleton_append, List.nil_append] at hrest ⊢
      rw [hrest]
      simp [hn]
    · rw [lineFeedsFrom_cons hc]
      have hrest := ih before (line ++ [c]) (n := n + 1) (by simp [hn, Nat.add_assoc]) hstop'
      simpa only [List.append_assoc, List.cons_append, List.nil_append] using hrest

/-- **The lines of a text are the text**, if a line feed follows each of them. -/
theorem flatMap_lines (t : StyledText) :
    t.lines.flatMap (fun l => l.chars ++ ['\n']) = t.chars ++ ['\n'] := by
  rw [lines]
  dsimp only
  split
  · exact List.append_nil _
  · rw [List.flatMap_map]
    exact flatMap_between [] [] t.chars rfl (Nat.zero_add _).symm

theorem mem_of_mem_lines {t l : StyledText} (hl : l ∈ t.lines) {c : Char} (hc : c ∈ l.chars) :
    c ∈ t.chars := by
  rw [lines] at hl
  dsimp only at hl
  split at hl
  · rwa [List.mem_singleton.1 hl] at hc
  · obtain ⟨b, -, rfl⟩ := List.mem_map.1 hl
    exact List.mem_of_mem_drop (List.mem_of_mem_take hc)

theorem printed_of_notMem {t : StyledText} (h : '\t' ∉ t.chars) :
    printed (t.lines.map expandTabs) = String.ofList (t.chars ++ ['\n']) := by
  have hsame : t.lines.map expandTabs = t.lines := by
    refine List.map_congr_left (fun l hl => ?_) |>.trans (List.map_id _)
    have htab : ¬ l.chars.contains '\t' = true := fun htab =>
      h (mem_of_mem_lines hl (List.contains_iff_mem.1 htab))
    rw [expandTabs, if_neg htab, id]
  rw [hsame, printed, flatMap_lines]

end StyledText

/-! ## Printable texts -/

/-- Every character of the text reaches the terminal, and none of them is a tab. -/
def IsPrintable (s : String) : Prop :=
  ∀ c ∈ s.toList, c.toNat ∉ [7, 8, 9, 11, 12, 13]

instance (s : String) : Decidable (IsPrintable s) :=
  List.decidableBAll (fun c : Char => c.toNat ∉ [7, 8, 9, 11, 12, 13]) s.toList

theorem IsPrintable.append {s t : String} (hs : IsPrintable s) (ht : IsPrintable t) :
    IsPrintable (s ++ t) := by
  intro c hc
  rw [String.toList_append, List.mem_append] at hc
  exact hc.elim (hs c) (ht c)

theorem IsPrintable.shown_eq {s : String} (h : IsPrintable s) : shown s = s.toList := by
  rw [shown, shownChars, List.filter_eq_self]
  intro c hc
  have := h c hc
  simp only [List.mem_cons, List.not_mem_nil, or_false, not_or] at this
  simp [this]

/-- **A printable text is printed as it is**, on a line of its own. -/
theorem unwrapped_of_isPrintable {s : String} (h : IsPrintable s) : unwrapped s = s ++ "\n" := by
  have hchars : (StyledText.plain s).chars = s.toList := h.shown_eq
  have htab : '\t' ∉ (StyledText.plain s).chars := by
    rw [hchars]
    exact fun htab => h '\t' htab (by decide)
  rw [unwrapped, StyledText.printed_of_notMem htab, hchars, ← String.toList_inj,
    String.toList_ofList, String.toList_append]
  rfl

end ContractAudit.Terminal
