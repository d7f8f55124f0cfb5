/-
  Positions tell offsets apart.

  * `position_injective`: two offsets of one table with the same line and the same column are equal,
    past the end of the text as well;
  * `range_injective`: hence the positions of its start and its end determine a range;
  * `position?_natCast` and `range?_natCast`: nothing that is not negative lacks its positions.
-/
import Mathlib.Data.List.TakeWhile
import ContractAudit.SourceMap.LineTable

namespace ContractAudit

attribute [ext] Position

namespace LineTable

variable (t : LineTable)

theorem position?_natCast (offset : Nat) : t.position? offset = .ok (t.position offset) := by
  have hnat : ¬ (offset : Int) < 0 := by omega
  rw [position?, if_neg hnat, Int.toNat_natCast]

theorem range?_natCast (offset length : Nat) :
    t.range? offset length = .ok (t.position offset, t.position (offset + length)) := by
  have hnat : ¬ ((offset : Int) < 0 ∨ (length : Int) < 0) := by omega
  rw [range?, if_neg hnat, Int.toNat_natCast, Int.toNat_natCast]
  rfl

theorem getLast?_upTo_le (offset : Nat) : (t.upTo offset).getLast?.getD 0 ≤ offset := by
  cases h : (t.upTo offset).getLast? with
  | none => exact Nat.zero_le _
  | some start =>
    have hmem : start ∈ t.starts.takeWhile (· ≤ offset) := List.mem_of_getLast? h
    simpa using List.mem_takeWhile_imp hmem

theorem upTo_eq_of_length_eq {a b : Nat} (h : (t.upTo a).length = (t.upTo b).length) :
    t.upTo a = t.upTo b := by
  have ha : t.upTo a <+: t.starts := List.takeWhile_prefix _
  have hb : t.upTo b <+: t.starts := List.takeWhile_prefix _
  exact (List.prefix_of_prefix_length_le ha hb h.le).eq_of_length h

/-- **No two offsets have the same position.** -/
theorem position_injective : Function.Injective t.position := by
  intro a b h
  simp only [position, Position.mk.injEq, Nat.add_right_cancel_iff] at h
  obtain ⟨hline, hcolumn⟩ := h
  have hstart := t.upTo_eq_of_length_eq hline
  have ha := t.getLast?_upTo_le a
  have hb := t.getLast?_upTo_le b
  rw [hstart] at hcolumn ha
  omega

/-- **No two ranges have the same positions of start and end.** -/
theorem range_injective : Function.Injective t.range := by
  rintro ⟨o, l⟩ ⟨o', l'⟩ h
  simp only [range, Prod.mk.injEq] at h
  have ho : o = o' := t.position_injective h.1
  have hs : o + l = o' + l' := t.position_injective h.2
  rw [Span.mk.injEq]
  omega

end LineTable

end ContractAudit
