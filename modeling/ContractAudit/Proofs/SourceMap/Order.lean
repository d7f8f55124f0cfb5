/-
  Positions are in the order of offsets.

  * Positions are read like the words of a text: first the line counts and then the column
    (`Position.rank`).
  * `rank_position_lt`: a smaller offset has a smaller position, also where both are past the end;
  * `lineStart?_position`: the offset is the start of its line and the column together;
  * `EmbedsOffsets` says all this of a table, and of its ranges that they do not end before they
    start; `positions_embed_offsets`: it holds of the table of every text.
-/
import Mathlib.Data.Prod.Lex
import ContractAudit.Proofs.SourceMap.Position

namespace ContractAudit

/-- The place of a position in the order of lines and, within a line, of columns. -/
def Position.rank (p : Position) : ℕ ×ₗ ℕ :=
  toLex (p.line, p.column)

namespace LineTable

/-- The offset at which a line starts, if there is such a line. -/
def lineStart? (t : LineTable) : (line : Nat) → Option Nat
  | 0 => none
  | 1 => some 0
  | n + 2 => t.starts[n]?

/-- The positions of the table are in the order of the offsets, which are found again from them. -/
structure EmbedsOffsets (t : LineTable) : Prop where
  rank_lt : ∀ a b : Nat, a < b → ∃ p q,
    t.position? a = .ok p ∧ t.position? b = .ok q ∧ p.rank < q.rank
  distinct : ∀ a b : Nat, t.position? a = t.position? b → a = b
  found : ∀ a : Nat, ∃ p start,
    t.position? a = .ok p ∧ t.lineStart? p.line = some start ∧ start + p.column = a
  range_le : ∀ offset length : Nat, ∃ first last,
    t.range? offset length = .ok (first, last) ∧ first.rank ≤ last.rank ∧
      (first = last ↔ length = 0)

section
variable (t : LineTable)

theorem upTo_prefix {a b : Nat} (h : a ≤ b) : t.upTo a <+: t.upTo b := by
  have hboth : (t.upTo b).takeWhile (· ≤ a) = t.upTo a := by
    rw [upTo, List.takeWhile_takeWhile, upTo]
    congr 1
    funext start
    rw [decide_eq_decide]
    simp only [decide_eq_true_eq]
    omega
  rw [← hboth]
  exact List.takeWhile_prefix _

/-- **A smaller offset has a smaller position.** -/
theorem rank_position_lt {a b : Nat} (h : a < b) :
    (t.position a).rank < (t.position b).rank := by
  have hprefix := t.upTo_prefix h.le
  rw [Position.rank, Position.rank, Prod.Lex.toLex_lt_toLex']
  refine ⟨Nat.add_le_add_right hprefix.length_le 1, fun hline => ?_⟩
  -- on one line, both columns count from the same start
  have hsame : t.upTo a = t.upTo b :=
    t.upTo_eq_of_length_eq (Nat.add_right_cancel hline)
  have hstart := t.getLast?_upTo_le a
  simp only [position]
  rw [← hsame]
  omega

theorem rank_position_le {a b : Nat} (h : a ≤ b) :
    (t.position a).rank ≤ (t.position b).rank :=
  StrictMono.monotone (fun _ _ => t.rank_position_lt) h

/-- **An offset is the start of its line and its column together.** -/
theorem lineStart?_position (offset : Nat) :
    ∃ start, t.lineStart? (t.position offset).line = some start ∧
      start + (t.position offset).column = offset := by
  refine ⟨(t.upTo offset).getLast?.getD 0, ?_, ?_⟩
  · have hprefix : t.upTo offset <+: t.starts := List.takeWhile_prefix _
    rw [position]
    cases hlen : (t.upTo offset).length with
    | zero =>
      rw [List.length_eq_zero_iff.1 hlen]
      rfl
    | succ n =>
      have hn : n < (t.upTo offset).length := by omega
      rw [lineStart?, List.getLast?_eq_getElem?, hlen, Nat.add_sub_cancel,
        List.getElem?_eq_getElem hn]
      exact List.prefix_iff_getElem?.1 hprefix n hn
  · exact Nat.add_sub_of_le (t.getLast?_upTo_le offset)

/-- The positions of a table are in the order of the offsets. -/
theorem embedsOffsets : t.EmbedsOffsets where
  rank_lt a b h := ⟨_, _, t.position?_natCast a, t.position?_natCast b, t.rank_position_lt h⟩
  distinct a b h := by
    rw [position?_natCast, position?_natCast] at h
    exact t.position_injective (Except.ok.inj h)
  found a := by
    obtain ⟨start, hstart, hoffset⟩ := t.lineStart?_position a
    exact ⟨_, start, t.position?_natCast a, hstart, hoffset⟩
  range_le offset length := by
    refine ⟨_, _, t.range?_natCast offset length, t.rank_position_le (Nat.le_add_right _ _),
      fun h => ?_, ?_⟩
    · have := t.position_injective h
      omega
    · rintro rfl
      rfl

end

/-- **Positions are a strict order embedding of offsets**, past the end of the text as well: the
smaller of two offsets has the smaller position, each offset is found again from its position, and
a range ends after its start unless it is empty.  This holds of any bytes and of any text. -/
theorem positions_embed_offsets :
    (∀ bytes : List UInt8, (ofBytes bytes).EmbedsOffsets) ∧
    ∀ text : String, (ofText text).EmbedsOffsets :=
  ⟨fun _ => embedsOffsets _, fun _ => embedsOffsets _⟩

end LineTable

end ContractAudit
