/-
  Texts without blanks at their ends.

  * `IsStripped`: a text neither begins nor ends with a blank, and `IsAllBlank`: it has nothing but
    blanks;
  * `isStripped_trimmed` and `trimmed_of_isStripped`: trimming strips a text, and does nothing to
    one that is stripped;
  * `trimmed_eq_empty_iff`: nothing remains of a text iff it has nothing but blanks.
-/
import Mathlib.Data.List.DropRight
import ContractAudit.Text.Blank

namespace ContractAudit.Text

/-- The text neither begins nor ends with a blank. -/
def IsStripped (s : String) : Prop :=
  (∀ c ∈ s.toList.head?, isBlank c = false) ∧ ∀ c ∈ s.toList.getLast?, isBlank c = false

/-- The text has nothing but blanks. -/
def IsAllBlank (s : String) : Prop :=
  ∀ c ∈ s.toList, isBlank c = true

/-! ## One end -/

theorem trimLeft_cons {c : Char} (hc : isBlank c = false) (rest : List Char) :
    trimLeft (c :: rest) = c :: rest :=
  List.dropWhile_cons_of_neg (by rw [hc]; exact Bool.false_ne_true)

/-- Blanks are dropped after the last other character. -/
theorem trimRight_append_cons {c : Char} (hc : isBlank c = false) (s rest : List Char) :
    trimRight (s ++ c :: rest) = s ++ c :: trimRight rest := by
  have hstop : (c :: s.reverse).dropWhile isBlank = c :: s.reverse :=
    List.dropWhile_cons_of_neg (by rw [hc]; exact Bool.false_ne_true)
  rw [trimRight, List.reverse_append, List.reverse_cons, List.append_assoc, List.singleton_append,
    List.dropWhile_append, hstop, trimRight]
  by_cases hblank : (rest.reverse.dropWhile isBlank).isEmpty = true
  · rw [if_pos hblank, List.isEmpty_iff.1 hblank]
    simp
  · rw [if_neg hblank]
    simp

section
variable {s : List Char}

theorem isBlank_of_mem_head?_trimLeft : ∀ c ∈ (trimLeft s).head?, isBlank c = false := by
  induction s with
  | nil => exact nofun
  | cons c s ih =>
    cases hc : isBlank c with
    | true =>
      rw [trimLeft, List.dropWhile_cons_of_pos hc]
      exact ih
    | false =>
      rw [trimLeft_cons hc]
      rintro _ ⟨⟩
      exact hc

theorem trimLeft_of_head? (h : ∀ c ∈ s.head?, isBlank c = false) : trimLeft s = s := by
  cases s with
  | nil => rfl
  | cons c s => exact trimLeft_cons (h c rfl) s

theorem trimRight_eq (s : List Char) : trimRight s = (trimLeft s.reverse).reverse := rfl

theorem mem_head?_of_trimRight {c : Char} (h : c ∈ (trimRight s).head?) : c ∈ s.head? := by
  obtain ⟨blanks, hs⟩ : trimRight s <+: s := List.rdropWhile_prefix isBlank s
  rw [← hs, List.head?_append, h]
  rfl

end

/-! ## Both ends -/

/-- **A trimmed text is stripped.** -/
theorem isStripped_trimmed (s : String) : IsStripped (trimmed s) := by
  rw [IsStripped, trimmed, String.toList_ofList, trim]
  constructor
  · intro c hc
    exact isBlank_of_mem_head?_trimLeft c (mem_head?_of_trimRight hc)
  · rw [trimRight_eq, List.getLast?_reverse]
    exact isBlank_of_mem_head?_trimLeft

/-- **A stripped text is trimmed to itself.** -/
theorem trimmed_of_isStripped {s : String} (h : IsStripped s) : trimmed s = s := by
  obtain ⟨hhead, hlast⟩ := h
  rw [← List.head?_reverse] at hlast
  rw [trimmed, trim, trimLeft_of_head? hhead, trimRight_eq, trimLeft_of_head? hlast,
    List.reverse_reverse, String.ofList_toList]

instance (s : String) : Decidable (IsStripped s) :=
  decidable_of_iff (trimmed s = s) ⟨fun h => h ▸ isStripped_trimmed s, trimmed_of_isStripped⟩

theorem infix_trimmed (s : String) : (trimmed s).toList <:+: s.toList := by
  rw [trimmed, String.toList_ofList]
  exact (List.rdropWhile_prefix isBlank _).isInfix.trans (List.dropWhile_suffix isBlank).isInfix

/-- **Nothing remains of a text iff it has nothing but blanks.** -/
theorem trimmed_eq_empty_iff {s : String} : trimmed s = "" ↔ IsAllBlank s := by
  have hleft : ∀ l : List Char, trimLeft l = [] ↔ ∀ c ∈ l, isBlank c = true :=
    fun _ => List.dropWhile_eq_nil_iff
  have hempty : trimmed s = "" ↔ trim s.toList = [] := by
    rw [trimmed, ← String.toList_inj, String.toList_ofList]
    rfl
  rw [hempty, trim, trimRight_eq, List.reverse_eq_nil_iff, hleft, IsAllBlank]
  simp only [List.mem_reverse]
  constructor
  · -- what is not dropped at the start would begin with no blank
    intro hall
    rw [← hleft]
    cases hs : trimLeft s.toList with
    | nil => rfl
    | cons c rest =>
      have hhead : c ∈ (trimLeft s.toList).head? := by rw [hs]; rfl
      have hblank := hall c (by rw [hs]; exact List.mem_cons_self)
      rw [isBlank_of_mem_head?_trimLeft c hhead] at hblank
      cases hblank
  · intro hall c hc
    exact hall c ((List.dropWhile_sublist isBlank).mem hc)

end ContractAudit.Text
