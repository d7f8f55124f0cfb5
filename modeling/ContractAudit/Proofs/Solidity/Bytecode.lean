/-
  The form of bytecode.

  * `HexPairs`: an even number of hexadecimal digits.
  * `BytecodeForm`: a positive and even number of them, with or without `0x` in front; a line feed
    at the end is passed over.  It is what the check looks for (`isBytecode_iff`).
-/
import ContractAudit.Solidity.Contract

namespace ContractAudit.Solidity

/-- An even number of hexadecimal digits. -/
structure HexPairs (digits : List Char) : Prop where
  even : digits.length % 2 = 0
  hex : ∀ c ∈ digits, (Text.hexDigit? c).isSome

namespace HexPairs

variable {a b : Char} {digits : List Char}

theorem nil : HexPairs [] :=
  ⟨rfl, List.forall_mem_nil _⟩

theorem cons_cons_iff :
    HexPairs (a :: b :: digits) ↔
      (Text.hexDigit? a).isSome ∧ (Text.hexDigit? b).isSome ∧ HexPairs digits := by
  constructor
  · rintro ⟨heven, hhex⟩
    obtain ⟨ha, hb, hrest⟩ := (List.forall_mem_cons.1 hhex).imp_right List.forall_mem_cons.1
    exact ⟨ha, hb, (Nat.add_mod_right _ 2).symm.trans heven, hrest⟩
  · rintro ⟨ha, hb, heven, hrest⟩
    exact ⟨(Nat.add_mod_right _ 2).trans heven,
      List.forall_mem_cons.2 ⟨ha, List.forall_mem_cons.2 ⟨hb, hrest⟩⟩⟩

end HexPairs

section
variable {s : List Char}

theorem isHexPairs_iff :
    isHexPairs s = true ↔
      ∃ digits tail, s = digits ++ tail ∧ HexPairs digits ∧ (tail = [] ∨ tail = ['\n']) := by
  fun_induction isHexPairs s with
  | case1 => exact iff_of_true rfl ⟨[], [], rfl, .nil, .inl rfl⟩
  | case2 c =>
    constructor
    · intro h
      exact ⟨[], [c], rfl, .nil, .inr (by rw [eq_of_beq h])⟩
    · rintro ⟨digits, tail, heq, ⟨heven, -⟩, rfl | rfl⟩
      · rw [List.append_nil] at heq
        subst heq
        cases heven
      · obtain rfl : c = '\n' := by
          have hlast := congrArg List.getLast? heq
          simpa using hlast
        rfl
  | case3 a b rest ih =>
    rw [Bool.and_eq_true, Bool.and_eq_true, ih]
    constructor
    · rintro ⟨⟨ha, hb⟩, digits, tail, rfl, hdigits, htail⟩
      exact ⟨a :: b :: digits, tail, rfl, HexPairs.cons_cons_iff.2 ⟨ha, hb, hdigits⟩, htail⟩
    · rintro ⟨digits, tail, heq, hdigits, htail⟩
      match digits, hdigits with
      | [], _ => rcases htail with rfl | rfl <;> simp at heq
      | [_], ⟨heven, _⟩ => cases heven
      | c :: d :: digits, hdigits =>
        obtain ⟨hc, hd, hrest⟩ := HexPairs.cons_cons_iff.1 hdigits
        cases heq
        exact ⟨⟨hc, hd⟩, digits, tail, rfl, hrest, htail⟩

theorem isSomeHexPairs_iff :
    isSomeHexPairs s = true ↔
      ∃ digits tail, s = digits ++ tail ∧ HexPairs digits ∧ digits ≠ [] ∧
        (tail = [] ∨ tail = ['\n']) := by
  rw [isSomeHexPairs, Bool.and_eq_true, isHexPairs_iff, decide_eq_true_iff]
  constructor
  · rintro ⟨⟨digits, tail, rfl, hdigits, htail⟩, hlength⟩
    refine ⟨digits, tail, rfl, hdigits, ?_, htail⟩
    rintro rfl
    rcases htail with rfl | rfl <;> simp at hlength
  · rintro ⟨digits, tail, rfl, hdigits, hne, htail⟩
    refine ⟨⟨digits, tail, rfl, hdigits, htail⟩, ?_⟩
    have hpos : 0 < digits.length := List.length_pos_iff.2 hne
    have heven : digits.length % 2 = 0 := hdigits.even
    rw [List.length_append]
    omega

/-- A positive and even number of hexadecimal digits, with or without `0x` in front of them; one
line feed may follow. -/
def BytecodeForm (s : List Char) : Prop :=
  ∃ lead digits tail, s = lead ++ digits ++ tail ∧ (lead = [] ∨ lead = ['0', 'x']) ∧
    HexPairs digits ∧ digits ≠ [] ∧ (tail = [] ∨ tail = ['\n'])

/-- **The check of bytecode looks for its form.** -/
theorem isBytecode_iff : isBytecode s = true ↔ BytecodeForm s := by
  rw [isBytecode.eq_def, BytecodeForm]
  split
  · next rest =>
    rw [isSomeHexPairs_iff]
    constructor
    · rintro ⟨digits, tail, rfl, h⟩
      exact ⟨['0', 'x'], digits, tail, rfl, .inr rfl, h⟩
    · rintro ⟨lead, digits, tail, heq, rfl | rfl, hdigits, hne, htail⟩
      · -- the second character is no digit
        match digits, hdigits with
        | [_], ⟨heven, _⟩ => cases heven
        | c :: d :: digits, hdigits =>
          cases heq
          have hx := (HexPairs.cons_cons_iff.1 hdigits).2.1
          exact absurd hx (by decide)
      · cases heq
        exact ⟨digits, tail, rfl, hdigits, hne, htail⟩
  · next hlead =>
    rw [isSomeHexPairs_iff]
    constructor
    · rintro ⟨digits, tail, rfl, h⟩
      exact ⟨[], digits, tail, rfl, .inl rfl, h⟩
    · rintro ⟨lead, digits, tail, rfl, rfl | rfl, h⟩
      · exact ⟨digits, tail, rfl, h⟩
      · exact absurd rfl (hlead (digits ++ tail))

end

end ContractAudit.Solidity
