/-
  Markup that can be shown, and markup that cannot.

  * `hasTag`: whether a bracket of a text starts a tag.  A text without tags shows itself, but for
    backslashes before brackets and codes of emoji, and has no stretches (`styledText_of_hasTag`);
  * `ClosesFirst`: the first bracket of a text starts a closing tag.  No tag is open there, so that
    the text cannot be shown (`ClosesFirst.not_returns`).
-/
import Mathlib.Data.List.TakeDrop
import ContractAudit.Proofs.Answers
import ContractAudit.Terminal.Markup

namespace ContractAudit.Terminal

/-! ## Reading one character -/

section
variable {rest : List Char} (plain : List Char) (slashes fuel : Nat)

theorem piecesOf_backslash :
    piecesOf plain slashes (fuel + 1) ('\\' :: rest) = piecesOf plain (slashes + 1) fuel rest := by
  rw [piecesOf]

theorem piecesOf_cons {c : Char} (hslash : c ≠ '\\') (htag : c = '[' → tag? rest = none) :
    piecesOf plain slashes (fuel + 1) (c :: rest) =
      piecesOf (c :: List.replicate slashes '\\' ++ plain) 0 fuel rest := by
  by_cases hc : c = '['
  · subst hc
    rw [piecesOf, htag rfl]
  · rw [piecesOf]
    · exact hslash
    · exact hc

theorem piecesOf_tag {inside after : List Char} (htag : tag? rest = some (inside, after)) :
    piecesOf plain 0 (fuel + 1) ('[' :: rest) =
      .text (unescaped plain.reverse) :: .text [] :: tagPiece inside ::
        piecesOf [] 0 fuel after := by
  rw [piecesOf, htag]
  rfl

end

/-! ## Text without tags -/

/-- Whether a bracket of the text starts a tag. -/
def hasTag : List Char → Bool
  | [] => false
  | c :: rest => (c == '[' && (tag? rest).isSome) || hasTag rest

/-- A text without tags is one piece. -/
theorem piecesOf_of_hasTag {s : List Char} (h : hasTag s = false) (plain : List Char)
    (slashes : Nat) {fuel : Nat} (hfuel : s.length < fuel) :
    piecesOf plain slashes fuel s =
      [.text (unescaped (plain.reverse ++ List.replicate slashes '\\' ++ s))] := by
  induction s generalizing plain slashes fuel with
  | nil =>
    obtain ⟨fuel, rfl⟩ := Nat.exists_eq_add_one_of_ne_zero (Nat.ne_zero_of_lt hfuel)
    rw [piecesOf, List.append_nil, List.reverse_append, List.reverse_replicate]
    exact Nat.succ_ne_zero _
  | cons c rest ih =>
    obtain ⟨fuel, rfl⟩ := Nat.exists_eq_add_one_of_ne_zero (Nat.ne_zero_of_lt hfuel)
    obtain ⟨htag, hrest⟩ := Bool.or_eq_false_iff.1 h
    have hshorter : rest.length < fuel := Nat.lt_of_succ_lt_succ hfuel
    by_cases hslash : c = '\\'
    · subst hslash
      rw [piecesOf_backslash, ih hrest _ _ hshorter, List.replicate_succ']
      simp
    · have htag : c = '[' → tag? rest = none := by
        rintro rfl
        simpa using htag
      rw [piecesOf_cons _ _ _ hslash htag, ih hrest _ _ hshorter]
      simp

/-- **A text without tags shows itself**, but for backslashes before brackets and codes of emoji. -/
theorem styledText_of_hasTag {s : String} (h : hasTag s.toList = false) :
    styledText s = .ok { chars := shownChars (withEmoji (unescaped s.toList)) } := by
  have hpieces : markupPieces s = [.text (unescaped s.toList)] := by
    rw [markupPieces, ← String.length_toList, piecesOf_of_hasTag h [] 0 (Nat.lt_succ_self _)]
    rfl
  rw [styledText, hpieces]
  simp [styledPieces]

/-! ## Closing what is not open -/

/-- The first bracket of the text starts a closing tag, and no backslash comes before it. -/
def ClosesFirst (s : List Char) : Prop :=
  ∃ before inside after, s = before ++ '[' :: '/' :: inside ++ ']' :: after ∧
    (∀ c ∈ before, c ≠ '[' ∧ c ≠ '\\') ∧ ∀ c ∈ inside, c ≠ '[' ∧ c ≠ ']'

theorem piecesOf_append {before : List Char} (h : ∀ c ∈ before, c ≠ '[' ∧ c ≠ '\\')
    (plain rest : List Char) (fuel : Nat) :
    piecesOf plain 0 (before.length + fuel) (before ++ rest) =
      piecesOf (before.reverse ++ plain) 0 fuel rest := by
  induction before generalizing plain with
  | nil => rw [List.length_nil, Nat.zero_add]; rfl
  | cons c before ih =>
    obtain ⟨⟨hbracket, hslash⟩, hbefore⟩ := List.forall_mem_cons.1 h
    rw [List.length_cons, Nat.add_right_comm, List.cons_append,
      piecesOf_cons _ _ _ hslash fun hc => absurd hc hbracket, ih hbefore]
    simp

theorem tag?_eq_some {c : Char} (hc : startsTag c = true) {inside : List Char}
    (h : ∀ c ∈ inside, c ≠ '[' ∧ c ≠ ']') (after : List Char) :
    tag? (c :: inside ++ ']' :: after) = some (c :: inside, after) := by
  have hspan : (inside ++ ']' :: after).span (fun c => c != ']' && c != '[') =
      (inside, ']' :: after) := by
    have hall : ∀ c ∈ inside, (c != ']' && c != '[') = true := fun c hc => by simp [h c hc]
    rw [List.span_eq_takeWhile_dropWhile, List.takeWhile_append_of_pos hall,
      List.dropWhile_append_of_pos hall]
    simp
  rw [List.cons_append, tag?, if_pos hc, hspan]
  rfl

theorem returns_styledPieces_text (pos : Nat) (isOpen : List OpenTag) (s : List Char)
    (rest : List Piece) :
    Returns (styledPieces pos isOpen (.text s :: rest)) ↔
      Returns (styledPieces (pos + (shownChars (withEmoji s)).length) isOpen rest) := by
  rw [styledPieces]
  exact Returns.bind_iff_of_returns fun _ => .pure _

/-- No closing tag closes anything where nothing is open. -/
theorem not_returns_closing (pos : Nat) (inside : List Char) (rest : List Piece) :
    ¬ Returns (styledPieces pos [] (tagPiece ('/' :: inside) :: rest)) := by
  rw [tagPiece]
  split
  · exact Returns.not_error _
  · rw [styledPieces, Returns.bind_iff]
    rintro ⟨name, -, h⟩
    exact Returns.not_error _ h

/-- **A text that closes a tag before it opens one cannot be shown.** -/
theorem ClosesFirst.not_returns {s : String} (h : ClosesFirst s.toList) :
    ¬ Returns (styledText s) := by
  obtain ⟨before, inside, after, hs, hbefore, hinside⟩ := h
  have hfuel : s.length + 1 = before.length + (inside.length + after.length + 3 + 1) := by
    rw [← String.length_toList, hs]
    simp only [List.length_append, List.length_cons]
    omega
  have hpieces : markupPieces s =
      .text (unescaped before) :: .text [] :: tagPiece ('/' :: inside) ::
        piecesOf [] 0 (inside.length + after.length + 3) after := by
    rw [markupPieces, hs, hfuel, List.append_assoc, piecesOf_append hbefore, List.cons_append,
      piecesOf_tag _ _ (tag?_eq_some (by decide) hinside after)]
    simp
  rw [styledText, hpieces, Returns.bind_iff_of_returns fun _ => .pure _,
    returns_styledPieces_text, returns_styledPieces_text]
  exact not_returns_closing _ _ _

end ContractAudit.Terminal
