/-
  Placeholders of libraries in bytecode.

  * The compiler leaves `__$`, some word and `$__` where the address of a library belongs.  `linked`
    puts the zero address there, which has the length of a placeholder of the compiler.
-/
import ContractAudit.Text.Word

namespace ContractAudit.Solidity

/-- The start of a placeholder. -/
def placeholderOpening : List Char := ['_', '_', '$']

/-- The end of a placeholder. -/
def placeholderClosing : List Char := ['$', '_', '_']

/-- The address zero. -/
def zeroAddress : List Char := List.replicate 40 '0'

/-- The text after the placeholder at its start. -/
def afterPlaceholder? (s : List Char) : Option (List Char) :=
  if placeholderOpening.isPrefixOf s then
    let word := (s.drop 3).takeWhile Text.isWord
    let rest := (s.drop 3).dropWhile Text.isWord
    if !word.isEmpty && placeholderClosing.isPrefixOf rest then some (rest.drop 3) else none
  else none

/-- What follows a placeholder is shorter than the text. -/
theorem length_lt_of_afterPlaceholder? {s rest : List Char}
    (h : afterPlaceholder? s = some rest) : rest.length < s.length := by
  unfold afterPlaceholder? at h
  split at h
  · next hp =>
    simp only at h
    split at h
    · obtain rfl := Option.some.inj h
      have h₁ := (List.dropWhile_sublist (l := s.drop 3) Text.isWord).length_le
      have h₂ : 3 ≤ s.length := (List.isPrefixOf_iff_prefix.1 hp).length_le
      simp only [List.length_drop] at h₁ ⊢
      omega
    · simp at h
  · simp at h

/-- The characters with zero addresses for placeholders. -/
def linkedChars (s : List Char) : List Char :=
  match _h : afterPlaceholder? s with
  | some rest => zeroAddress ++ linkedChars rest
  | none =>
    match s with
    | [] => []
    | c :: rest => c :: linkedChars rest
termination_by s.length
decreasing_by
  · exact length_lt_of_afterPlaceholder? ‹_›
  · simp

/-- The bytecode with zero addresses for placeholders. -/
def linked (bytecode : String) : String :=
  String.ofList (linkedChars bytecode.toList)

end ContractAudit.Solidity
