/-
  Messages in red.

  * `IsUnmarked`: a text without tags, without backslashes before brackets or at its end, and
    without codes of emoji.
  * `styledText_red`: what the markup of a red text without tags shows; `marked_red`: if the text is
    unmarked, it is printed as it would be without markup.
  * `HasCode`: a code of an emoji stands somewhere in a text.  `isUnmarked_of_notMem`: a text
    without brackets and codes is unmarked unless it ends with a backslash.
-/
import Mathlib.Data.List.TakeWhile
import ContractAudit.Proofs.Terminal.Markup
import ContractAudit.Proofs.Terminal.Printing
import ContractAudit.Proofs.Terminal.Styles

namespace ContractAudit.Terminal

/-! ## Tags around a text -/

/-- A bracket that starts no tag does not start one either where another bracket follows. -/
theorem tag?_append_bracket {s : List Char} (h : tag? s = none) (rest : List Char) :
    tag? (s ++ '[' :: rest) = none := by
  cases s with
  | nil => rfl
  | cons c s =>
    rw [List.cons_append, tag?]
    rw [tag?] at h
    split at h
    · next hc =>
      rw [if_pos hc]
      simp only [List.span_eq_takeWhile_dropWhile, List.dropWhile_append] at h ⊢
      cases hs : s.dropWhile fun d => d != ']' && d != '[' with
      | nil => simp
      | cons d after =>
        rw [hs] at h
        have hd : d ≠ ']' := by
          rintro rfl
          simp at h
        simp [hd]
    · next hc => rw [if_neg hc]

/-- The pieces of a text without tags that a tag follows. -/
theorem piecesOf_append_of_hasTag {s : List Char} (h : hasTag s = false) (plain : List Char)
    {slashes : Nat} (hlast : (List.replicate slashes '\\' ++ s).getLast? ≠ some '\\')
    (rest : List Char) (fuel : Nat) :
    piecesOf plain slashes (s.length + fuel) (s ++ '[' :: rest) =
      piecesOf (s.reverse ++ List.replicate slashes '\\' ++ plain) 0 fuel ('[' :: rest) := by
  induction s generalizing plain slashes with
  | nil =>
    cases slashes with
    | zero => simp
    | succ n => simp [List.replicate_succ'] at hlast
  | cons c s ih =>
    obtain ⟨htag, hs⟩ := Bool.or_eq_false_iff.1 h
    rw [List.length_cons, Nat.add_right_comm, List.cons_append]
    by_cases hslash : c = '\\'
    · subst hslash
      have hlast' : (List.replicate (slashes + 1) '\\' ++ s).getLast? ≠ some '\\' := by
        rwa [List.replicate_succ', List.append_assoc]
      rw [piecesOf_backslash, ih hs _ hlast', List.replicate_succ]
      simp
    · have htag : c = '[' → tag? (s ++ '[' :: rest) = none := by
        rintro rfl
        exact tag?_append_bracket (by simpa using htag) rest
      have hlast' : (List.replicate 0 '\\' ++ s).getLast? ≠ some '\\' := by
        intro hend
        apply hlast
        rw [List.replicate_zero, List.nil_append] at hend
        simp [List.getLast?_append, List.getLast?_cons, hend]
      rw [piecesOf_cons _ _ _ hslash htag, ih hs _ hlast']
      simp

theorem markupPieces_red {s : String} (h : hasTag s.toList = false)
    (hlast : s.toList.getLast? ≠ some '\\') :
    markupPieces ("[red]" ++ s ++ "[/red]") =
      [.text [], .text [], .opening "red".toList none, .text (unescaped s.toList), .text [],
        .closing "red".toList, .text []] := by
  have hlength : ("[red]" ++ s ++ "[/red]").length + 1 = s.toList.length + 11 + 1 := by
    simp [← String.length_toList]
  have hlist : ("[red]" ++ s ++ "[/red]").toList =
      '[' :: ("red]".toList ++ (s.toList ++ '[' :: "/red]".toList)) := by
    simp
  have hopen : tag? ("red]".toList ++ (s.toList ++ '[' :: "/red]".toList)) =
      some ("red".toList, s.toList ++ '[' :: "/red]".toList) := rfl
  have hclose : tag? "/red]".toList = some ("/red".toList, []) := rfl
  rw [markupPieces, hlength, hlist, piecesOf_tag _ _ hopen,
    piecesOf_append_of_hasTag h _ (by simpa using hlast), piecesOf_tag _ _ hclose]
  simp [piecesOf, tagPiece, unescaped, Text.trim, Text.trimLeft, Text.trimRight, Text.isBlank]

theorem styleName_red : styleName "red".toList = .ok "red" :=
  toOption_eq_some_iff.1 (by decide +kernel)

/-- **What the markup of a red text without tags shows.** -/
theorem styledText_red {s : String} (h : hasTag s.toList = false)
    (hlast : s.toList.getLast? ≠ some '\\') :
    styledText ("[red]" ++ s ++ "[/red]") =
      .ok { chars := shownChars (withEmoji (unescaped s.toList))
            stretches :=
              [⟨0, (shownChars (withEmoji (unescaped s.toList))).length, some "red"⟩] } := by
  have hname : styleName ['r', 'e', 'd'] = .ok "red" := styleName_red
  have hnone : shownChars (withEmoji []) = [] := by rw [withEmoji]; rfl
  rw [styledText, markupPieces_red h hlast]
  simp [styledPieces, hnone, hname, OpenTag.closed, OpenTag.description]

/-! ## Codes of emoji -/

/-- A code of an emoji stands somewhere in the text. -/
def HasCode (s : List Char) : Prop :=
  ∃ code, (emoji? code).isSome = true ∧ (∀ c ∈ code, c ≠ ':' ∧ Text.isBlank c = false) ∧
    ':' :: code ++ [':'] <:+: s

theorem HasCode.mono {s t : List Char} (h : HasCode s) (hst : s <:+: t) : HasCode t := by
  obtain ⟨code, hemoji, hcode, hs⟩ := h
  exact ⟨code, hemoji, hcode, hs.trans hst⟩

theorem HasCode.two_le_count {s : List Char} (h : HasCode s) : 2 ≤ s.count ':' := by
  obtain ⟨code, -, -, hs⟩ := h
  refine le_trans ?_ (hs.sublist.count_le ':')
  simp

theorem not_hasCode_of_notMem {s : List Char} (h : ':' ∉ s) : ¬ HasCode s := by
  intro hcode
  have hcount := hcode.two_le_count
  rw [List.count_eq_zero.2 h] at hcount
  exact absurd hcount (by decide)

/-- A code stands behind a text without colons. -/
theorem HasCode.of_append {s t : List Char} (h : HasCode (s ++ t)) (hs : ':' ∉ s) : HasCode t := by
  obtain ⟨code, hemoji, hcode, before, after, heq⟩ := h
  refine ⟨code, hemoji, hcode, ?_⟩
  rw [List.append_assoc, List.append_eq_append_iff] at heq
  rcases heq with ⟨u, hsu, hu⟩ | ⟨u, -, ht⟩
  · cases u with
    | nil => exact ⟨[], after, hu⟩
    | cons c u =>
      -- the text would end within the code
      rw [List.cons_append, List.cons_append, List.cons_append] at hu
      obtain ⟨rfl, -⟩ := List.cons.inj hu
      exact absurd (by simp [hsu]) hs
  · exact ⟨u, after, by rw [ht, List.append_assoc]⟩

theorem HasCode.of_append_left {s t : List Char} (h : HasCode (s ++ t)) (ht : ':' ∉ t) :
    HasCode s := by
  obtain ⟨code, hemoji, hcode, before, after, heq⟩ := h
  refine ⟨code, hemoji, hcode, ?_⟩
  rw [List.append_eq_append_iff] at heq
  rcases heq with ⟨u, hsu, -⟩ | ⟨u, hsu, htu⟩
  · exact ⟨before, u, hsu.symm⟩
  · rcases List.eq_nil_or_concat' u with rfl | ⟨u, c, rfl⟩
    · exact ⟨before, [], by simpa using hsu⟩
    · -- the text would begin within the code
      have hlast := congrArg List.getLast? hsu
      rw [List.getLast?_append, List.getLast?_concat, ← List.append_assoc,
        List.getLast?_concat] at hlast
      cases hlast
      exact absurd (by simp [htu]) ht

theorem withEmoji_cons {c : Char} (hc : c ≠ ':') (s : List Char) :
    withEmoji (c :: s) = c :: withEmoji s := by
  rw [withEmoji, if_neg (by simpa using hc)]

/-- A colon before a blank starts no code. -/
theorem withEmoji_colon {c : Char} (hc : Text.isBlank c = true) (s : List Char) :
    withEmoji (':' :: c :: s) = ':' :: withEmoji (c :: s) := by
  have hcolon : c ≠ ':' := by
    rintro rfl
    cases hc
  have hnone : codeAndRest? (c :: s) = none := by
    simp [codeAndRest?, hc, hcolon]
  rw [withEmoji, if_pos (by simp)]
  split
  · next h => cases hnone.symm.trans h
  · rfl

theorem withEmoji_append {s : List Char} (h : ':' ∉ s) (t : List Char) :
    withEmoji (s ++ t) = s ++ withEmoji t := by
  induction s with
  | nil => rfl
  | cons c s ih =>
    rw [List.mem_cons, not_or] at h
    obtain ⟨hc, hs⟩ := h
    rw [List.cons_append, withEmoji_cons (Ne.symm hc), ih hs, List.cons_append]

/-- What stands up to the next colon has neither colons nor blanks. -/
theorem eq_of_codeAndRest? {s code rest : List Char} (h : codeAndRest? s = some (code, rest)) :
    s = code ++ ':' :: rest ∧ ∀ c ∈ code, c ≠ ':' ∧ Text.isBlank c = false := by
  unfold codeAndRest? at h
  split at h
  · next t heq =>
    obtain ⟨rfl, rfl⟩ := Prod.mk.inj (Option.some.inj h)
    refine ⟨?_, fun c hc => by simpa using List.mem_takeWhile_imp hc⟩
    rw [← heq, List.takeWhile_append_dropWhile]
  · cases h

/-- **A text without codes of emoji is left as it is.** -/
theorem withEmoji_of_not_hasCode {s : List Char} (h : ¬ HasCode s) : withEmoji s = s := by
  fun_induction withEmoji s with
  | case1 => rfl
  | case2 c rest hc code after hread ih =>
    obtain ⟨hrest, hcode⟩ := eq_of_codeAndRest? hread
    rw [beq_iff_eq] at hc
    subst hc
    have hnone : emoji? code = none := by
      by_contra hsome
      exact h ⟨code, Option.isSome_iff_ne_none.2 hsome, hcode, [], after, by simp [hrest]⟩
    have hafter : ¬ HasCode after := fun hafter =>
      h (hafter.mono ⟨':' :: code ++ [':'], [], by simp [hrest]⟩)
    rw [ih hafter, hnone, hrest]
    simp
  | case3 c rest hc hread ih =>
    rw [ih fun hrest => h (hrest.mono (List.suffix_cons c rest).isInfix)]
  | case4 c rest hc ih =>
    rw [ih fun hrest => h (hrest.mono (List.suffix_cons c rest).isInfix)]

/-! ## Unmarked texts -/

/-- Markup shows the text as it is. -/
structure IsUnmarked (s : String) : Prop where
  noTag : hasTag s.toList = false
  noEscape : unescaped s.toList = s.toList
  noEmoji : withEmoji s.toList = s.toList
  /-- It would escape the tag after the text. -/
  noSlash : s.toList.getLast? ≠ some '\\'

theorem hasColours_red : HasColours (some "red") := by
  intro description hdescription hbad
  cases hdescription
  have hred := styleName_red
  rw [styleName, hbad] at hred
  cases hred

/-- Markup that shows a text is printed as the text is without markup. -/
theorem marked_of_styledText {s u : String} {t : StyledText} (hstyled : styledText s = .ok t)
    (hchars : t.SameChars (.plain u)) (hcolours : t.Styles HasColours) :
    marked s = .ok (unwrapped u) := by
  have hresolved : Returns ((t.lines.map StyledText.expandTabs).forM StyledText.resolveStyles) := by
    rw [Returns.forM_iff]
    refine List.forall_mem_map.2 fun l hl => returns_resolveStyles.2 ?_
    exact (hcolours.lines l hl).expandTabs nofun
  obtain ⟨⟨⟩, hresolved⟩ := hresolved
  rw [marked, hstyled, ok_bind]
  dsimp only
  rw [hresolved, ok_bind, hchars.printed_eq]
  rfl

/-- **An unmarked text is printed in red as it is printed without markup.** -/
theorem marked_red {s : String} (h : IsUnmarked s) :
    marked ("[red]" ++ s ++ "[/red]") = .ok (unwrapped s) := by
  obtain ⟨htag, hescape, hemoji, hslash⟩ := h
  have hstyled := styledText_red htag hslash
  rw [hescape, hemoji] at hstyled
  exact marked_of_styledText hstyled rfl (List.forall_mem_singleton.2 hasColours_red)

section
variable {s : List Char}

theorem hasTag_append (h : '[' ∉ s) (t : List Char) : hasTag (s ++ t) = hasTag t := by
  induction s with
  | nil => rfl
  | cons c s ih =>
    rw [List.mem_cons, not_or] at h
    obtain ⟨hc, hs⟩ := h
    simp [hasTag, ih hs, Ne.symm hc]

theorem unescaped_cons {c : Char} (hc : c ≠ '\\') : unescaped (c :: s) = c :: unescaped s := by
  rw [unescaped]
  rintro _ rfl
  exact absurd rfl hc

theorem unescaped_append (h : '\\' ∉ s) (t : List Char) :
    unescaped (s ++ t) = s ++ unescaped t := by
  induction s with
  | nil => rfl
  | cons c s ih =>
    rw [List.mem_cons, not_or] at h
    obtain ⟨hc, hs⟩ := h
    rw [List.cons_append, unescaped_cons (Ne.symm hc), ih hs, List.cons_append]

theorem unescaped_of_notMem (h : '[' ∉ s) : unescaped s = s := by
  fun_induction unescaped s with
  | case1 => rfl
  | case2 => simp at h
  | case3 c rest _ ih => rw [ih fun hrest => h (List.mem_cons_of_mem c hrest)]

end

theorem IsUnmarked.prepend {s t : String} (h : IsUnmarked t) (hbracket : '[' ∉ s.toList)
    (hslash : '\\' ∉ s.toList)
    (hemoji : withEmoji (s.toList ++ t.toList) = s.toList ++ withEmoji t.toList) :
    IsUnmarked (s ++ t) where
  noTag := by rw [String.toList_append, hasTag_append hbracket, h.noTag]
  noEscape := by rw [String.toList_append, unescaped_append hslash, h.noEscape]
  noEmoji := by rw [String.toList_append, hemoji, h.noEmoji]
  noSlash := by
    rw [String.toList_append, List.getLast?_append, ne_eq, Option.or_eq_some_iff]
    rintro (hlast | ⟨-, hlast⟩)
    · exact h.noSlash hlast
    · exact hslash (List.mem_of_getLast? hlast)

/-- **A text without brackets and codes is unmarked** unless it ends with a backslash. -/
theorem isUnmarked_of_notMem {s : String} (hbracket : '[' ∉ s.toList) (hcode : ¬ HasCode s.toList)
    (hslash : s.toList.getLast? ≠ some '\\') : IsUnmarked s where
  noTag := by
    rw [← List.append_nil s.toList, hasTag_append hbracket]
    rfl
  noEscape := unescaped_of_notMem hbracket
  noEmoji := withEmoji_of_not_hasCode hcode
  noSlash := hslash

end ContractAudit.Terminal
