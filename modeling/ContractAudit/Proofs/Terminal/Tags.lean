/-
  Texts without their tags.

  * `untagged s` is the text without its tags.  It is the text itself iff this has no tags
    (`untagged_eq_self_iff`).
  * `IsBare`: a text without backslashes and codes of emoji.  The markup of a red one shows the text
    without its tags, if it can be shown (`IsBare.eq_of_marked`), so that the text is shown as it is
    iff it has none (`IsBare.marked_eq_iff`).
-/
import ContractAudit.Proofs.Terminal.Messages

namespace ContractAudit.Terminal

/-! ## Tags -/

theorem eq_of_tag? {s inside after : List Char} (h : tag? s = some (inside, after)) :
    s = inside ++ ']' :: after := by
  unfold tag? at h
  split at h
  · split at h
    · split at h
      · next heq =>
        obtain ⟨rfl, rfl⟩ := Prod.mk.inj (Option.some.inj h)
        rw [List.span_eq_takeWhile_dropWhile] at heq
        obtain ⟨rfl, hafter⟩ := Prod.mk.inj heq
        rw [List.cons_append, ← hafter, List.takeWhile_append_dropWhile]
      · cases h
    · cases h
  · cases h

theorem length_lt_of_tag? {s inside after : List Char} (h : tag? s = some (inside, after)) :
    after.length < s.length := by
  rw [eq_of_tag? h, List.length_append, List.length_cons]
  omega

/-- A tag ends where it ends, whatever follows. -/
theorem tag?_append {s inside after : List Char} (h : tag? s = some (inside, after))
    (rest : List Char) : tag? (s ++ rest) = some (inside, after ++ rest) := by
  cases s with
  | nil => cases h
  | cons c s =>
    rw [List.cons_append, tag?]
    rw [tag?] at h
    split at h
    · next hc =>
      rw [if_pos hc]
      simp only [List.span_eq_takeWhile_dropWhile, List.takeWhile_append, List.dropWhile_append]
        at h ⊢
      split at h
      · next heq =>
        obtain ⟨rfl, rfl⟩ := Prod.mk.inj (Option.some.inj h)
        obtain ⟨rfl, hafter⟩ := Prod.mk.inj heq
        have hends : (s.takeWhile fun d => d != ']' && d != '[').length ≠ s.length := by
          intro hlength
          have htake := (List.takeWhile_prefix _).eq_of_length hlength
          have hsplit := List.takeWhile_append_dropWhile (p := fun d => d != ']' && d != '[')
            (l := s)
          rw [htake, hafter] at hsplit
          simp at hsplit
        rw [if_neg hends, hafter]
        rfl
      · cases h
    · cases h

/-! ## Text without its tags -/

/-- The text without its tags. -/
def untagged : List Char → List Char
  | [] => []
  | c :: rest =>
    match _h : if c = '[' then tag? rest else none with
    | some (_, after) => untagged after
    | none => c :: untagged rest
termination_by s => s.length
decreasing_by
  · split at _h
    · exact Nat.lt_succ_of_lt (length_lt_of_tag? _h)
    · cases _h
  · simp

theorem untagged_nil : untagged [] = [] := by
  rw [untagged]

theorem untagged_tag {rest inside after : List Char} (h : tag? rest = some (inside, after)) :
    untagged ('[' :: rest) = untagged after := by
  rw [untagged, if_pos rfl]
  split
  · next heq =>
    cases h.symm.trans heq
    rfl
  · next heq => cases h.symm.trans heq

theorem untagged_cons {c : Char} {rest : List Char} (h : c = '[' → tag? rest = none) :
    untagged (c :: rest) = c :: untagged rest := by
  rw [untagged]
  split
  · next heq =>
    split at heq
    · next hc => cases (h hc).symm.trans heq
    · cases heq
  · rfl

/-- Induction over the characters of a text and its tags. -/
theorem tag_induction {motive : List Char → Prop} (nil : motive [])
    (tag : ∀ rest inside after, tag? rest = some (inside, after) → motive after →
      motive ('[' :: rest))
    (cons : ∀ c rest, (c = '[' → tag? rest = none) → motive rest → motive (c :: rest))
    (s : List Char) : motive s := by
  fun_induction untagged s with
  | case1 => exact nil
  | case2 c rest inside after h ih =>
    split at h
    · next hc =>
      subst hc
      exact tag rest inside after h ih
    · cases h
  | case3 c rest h ih => exact cons c rest (fun hc => by rwa [dif_pos hc] at h) ih

theorem untagged_append {s : List Char} (h : '[' ∉ s) (t : List Char) :
    untagged (s ++ t) = s ++ untagged t := by
  induction s with
  | nil => rfl
  | cons c s ih =>
    rw [List.mem_cons, not_or] at h
    obtain ⟨hc, hs⟩ := h
    rw [List.cons_append, untagged_cons fun h => absurd h.symm hc, ih hs, List.cons_append]

theorem untagged_append_bracket (s rest : List Char) :
    untagged (s ++ '[' :: rest) = untagged s ++ untagged ('[' :: rest) := by
  induction s using tag_induction with
  | nil => rw [untagged_nil, List.nil_append, List.nil_append]
  | tag t inside after h ih =>
    rw [List.cons_append, untagged_tag h, untagged_tag (tag?_append h _), ih]
  | cons c t h ih =>
    rw [List.cons_append, untagged_cons h, untagged_cons fun hc => tag?_append_bracket (h hc) rest,
      ih, List.cons_append]

theorem untagged_sublist (s : List Char) : (untagged s).Sublist s := by
  induction s using tag_induction with
  | nil => rw [untagged_nil]
  | tag rest inside after h ih =>
    rw [untagged_tag h, eq_of_tag? h]
    exact ((ih.cons ']').trans (List.sublist_append_right inside _)).cons '['
  | cons c rest h ih =>
    rw [untagged_cons h]
    exact ih.cons_cons c

/-- **Only a text without tags is left as it is.** -/
theorem untagged_eq_self_iff {s : List Char} : untagged s = s ↔ hasTag s = false := by
  induction s using tag_induction with
  | nil => exact iff_of_true untagged_nil rfl
  | tag rest inside after h ih =>
    refine iff_of_false (fun heq => ?_) (by simp [hasTag, h])
    rw [untagged_tag h] at heq
    have hlength := (untagged_sublist after).length_le
    rw [heq, List.length_cons] at hlength
    exact absurd (length_lt_of_tag? h) (by omega)
  | cons c rest h ih =>
    rw [untagged_cons h, hasTag, Bool.or_eq_false_iff, ← ih]
    simpa using fun _ => h

theorem untagged_red (s : String) :
    untagged ("[red]" ++ s ++ "[/red]").toList = untagged s.toList := by
  have hlist : ("[red]" ++ s ++ "[/red]").toList =
      '[' :: ("red]".toList ++ (s.toList ++ '[' :: "/red]".toList)) := by
    simp
  have hopen : tag? ("red]".toList ++ (s.toList ++ '[' :: "/red]".toList)) =
      some ("red".toList, s.toList ++ '[' :: "/red]".toList) := rfl
  have hclose : tag? "/red]".toList = some ("/red".toList, []) := rfl
  rw [hlist, untagged_tag hopen, untagged_append_bracket, untagged_tag hclose, untagged_nil,
    List.append_nil]

/-! ## What pieces show -/

/-- The characters that a piece shows. -/
def Piece.shown : Piece → List Char
  | .text s => shownChars (withEmoji s)
  | _ => []

theorem Piece.shown_nil : (Piece.text []).shown = [] := by
  rw [shown, withEmoji]
  rfl

theorem shown_tagPiece (inside : List Char) : (tagPiece inside).shown = [] := by
  rw [tagPiece.eq_def]
  split
  · dsimp only
    split <;> rfl
  · split <;> rfl

/-- **Markup shows what its pieces show**, whatever the styles of its tags are. -/
theorem chars_of_styledPieces {pieces : List Piece} {pos : Nat} {isOpen : List OpenTag}
    {chars : List Char} {stretches : List Stretch}
    (h : styledPieces pos isOpen pieces = .ok (chars, stretches)) :
    chars = pieces.flatMap Piece.shown := by
  induction pieces generalizing pos isOpen chars stretches with
  | nil =>
    cases h
    rfl
  | cons piece pieces ih =>
    cases piece with
    | text s =>
      rw [styledPieces] at h
      obtain ⟨⟨rest, others⟩, hrest, h⟩ := bind_eq_ok.1 h
      cases h
      rw [ih hrest]
      rfl
    | opening name parameters =>
      rw [styledPieces] at h
      obtain ⟨name, -, hrest⟩ := bind_eq_ok.1 h
      exact ih hrest
    | closing name =>
      rw [styledPieces] at h
      obtain ⟨name, -, h⟩ := bind_eq_ok.1 h
      split at h
      · cases h
      · obtain ⟨stretch, -, h⟩ := bind_eq_ok.1 h
        obtain ⟨⟨rest, others⟩, hrest, h⟩ := bind_eq_ok.1 h
        cases h
        exact ih hrest
    | closingLast =>
      cases isOpen with
      | nil => cases h
      | cons tag others =>
        rw [styledPieces] at h
        obtain ⟨stretch, -, h⟩ := bind_eq_ok.1 h
        obtain ⟨⟨rest, others⟩, hrest, h⟩ := bind_eq_ok.1 h
        cases h
        exact ih hrest

/-! ## Texts without backslashes and codes -/

/-- Neither backslashes nor codes of emoji stand in the text. -/
structure IsBare (s : List Char) : Prop where
  noSlash : '\\' ∉ s
  noCode : ¬ HasCode s

theorem shownChars_append (s t : List Char) :
    shownChars (s ++ t) = shownChars s ++ shownChars t :=
  List.filter_append ..

namespace IsBare

theorem mono {s t : List Char} (h : IsBare t) (hst : s <:+: t) : IsBare s where
  noSlash hs := h.noSlash (hst.subset hs)
  noCode hs := h.noCode (hs.mono hst)

theorem unescaped_eq {s : List Char} (h : IsBare s) : unescaped s = s := by
  rw [← List.append_nil s, unescaped_append h.noSlash, unescaped]

theorem shown_text {s : List Char} (h : IsBare s) :
    (Piece.text (unescaped s)).shown = shownChars s := by
  rw [Piece.shown, h.unescaped_eq, withEmoji_of_not_hasCode h.noCode]

/-- The pieces show the text without its tags. -/
theorem flatMap_shown_piecesOf {s : List Char} (plain : List Char) {fuel : Nat}
    (hfuel : s.length < fuel) (h : IsBare (plain.reverse ++ s)) :
    (piecesOf plain 0 fuel s).flatMap Piece.shown = shownChars (plain.reverse ++ untagged s) := by
  induction s using tag_induction generalizing plain fuel with
  | nil =>
    obtain ⟨fuel, rfl⟩ := Nat.exists_eq_add_one_of_ne_zero (Nat.ne_zero_of_lt hfuel)
    have hplain : IsBare plain.reverse := h.mono (List.prefix_append _ _).isInfix
    rw [piecesOf, untagged_nil, List.append_nil, List.flatMap_singleton, List.replicate_zero,
      List.nil_append, hplain.shown_text]
    exact Nat.succ_ne_zero _
  | tag rest inside after htag ih =>
    obtain ⟨fuel, rfl⟩ := Nat.exists_eq_add_one_of_ne_zero (Nat.ne_zero_of_lt hfuel)
    have hplain : IsBare plain.reverse := h.mono (List.prefix_append _ _).isInfix
    have hshorter : after.length < fuel :=
      (length_lt_of_tag? htag).trans (Nat.lt_of_succ_lt_succ hfuel)
    have hafter : IsBare after :=
      h.mono ⟨plain.reverse ++ '[' :: inside ++ [']'], [], by simp [eq_of_tag? htag]⟩
    have hrest := ih [] hshorter hafter
    rw [List.reverse_nil, List.nil_append] at hrest
    rw [piecesOf_tag _ _ htag, untagged_tag htag, List.flatMap_cons, List.flatMap_cons,
      List.flatMap_cons, hplain.shown_text, Piece.shown_nil, shown_tagPiece, hrest,
      shownChars_append, List.nil_append, List.nil_append]
  | cons c rest htag ih =>
    obtain ⟨fuel, rfl⟩ := Nat.exists_eq_add_one_of_ne_zero (Nat.ne_zero_of_lt hfuel)
    have hslash : c ≠ '\\' := by
      rintro rfl
      exact h.noSlash (by simp)
    have hpart : (c :: plain).reverse ++ rest = plain.reverse ++ c :: rest := by simp
    have hrest := ih (c :: plain) (Nat.lt_of_succ_lt_succ hfuel) (by rwa [hpart])
    rw [piecesOf_cons _ _ _ hslash htag, untagged_cons htag]
    simpa using hrest

theorem chars_of_styledText {s : String} {t : StyledText} (h : IsBare s.toList)
    (hstyled : styledText s = .ok t) : t.chars = shownChars (untagged s.toList) := by
  rw [styledText] at hstyled
  obtain ⟨⟨chars, stretches⟩, hpieces, hstyled⟩ := bind_eq_ok.1 hstyled
  cases hstyled
  have hfuel : s.toList.length < s.length + 1 := Nat.lt_succ_of_le String.length_toList.le
  rw [chars_of_styledPieces hpieces, markupPieces, flatMap_shown_piecesOf [] hfuel h]
  rfl

variable {s : String}

theorem red (h : IsBare s.toList) : IsBare ("[red]" ++ s ++ "[/red]").toList := by
  rw [String.toList_append, String.toList_append]
  refine ⟨?_, fun hcode => ?_⟩
  · simp [h.noSlash]
  · exact h.noCode ((hcode.of_append_left (by decide)).of_append (by decide))

/-- **What a red text without backslashes and codes shows**, if it can be shown. -/
theorem eq_of_marked {text : String} (h : IsBare s.toList)
    (hmarked : marked ("[red]" ++ s ++ "[/red]") = .ok text) :
    text = unwrapped (String.ofList (untagged s.toList)) := by
  rw [marked] at hmarked
  obtain ⟨t, hstyled, hmarked⟩ := bind_eq_ok.1 hmarked
  obtain ⟨-, -, hmarked⟩ := bind_eq_ok.1 hmarked
  cases hmarked
  have hchars : t.SameChars (.plain (String.ofList (untagged s.toList))) := by
    rw [StyledText.SameChars, h.red.chars_of_styledText hstyled, untagged_red]
    simp [StyledText.plain, Terminal.shown]
  exact hchars.printed_eq

theorem isUnmarked (h : IsBare s.toList) (htag : hasTag s.toList = false) : IsUnmarked s where
  noTag := htag
  noEscape := h.unescaped_eq
  noEmoji := withEmoji_of_not_hasCode h.noCode
  noSlash hlast := h.noSlash (List.mem_of_getLast? hlast)

/-- **A red text without backslashes and codes is shown as it is iff it has no tags.** -/
theorem marked_eq_iff (h : IsBare s.toList) (hprintable : IsPrintable s) :
    marked ("[red]" ++ s ++ "[/red]") = .ok (s ++ "\n") ↔ hasTag s.toList = false := by
  refine ⟨fun hmarked => ?_, fun htag => ?_⟩
  · have huntagged : IsPrintable (String.ofList (untagged s.toList)) := fun c hc => by
      rw [String.toList_ofList] at hc
      exact hprintable c ((untagged_sublist _).subset hc)
    have htext := h.eq_of_marked hmarked
    rw [unwrapped_of_isPrintable huntagged, ← String.toList_inj, String.toList_append,
      String.toList_append] at htext
    have hsame := List.append_cancel_right htext
    rw [String.toList_ofList] at hsame
    exact untagged_eq_self_iff.1 hsame.symm
  · rw [marked_red (h.isUnmarked htag), unwrapped_of_isPrintable hprintable]

end IsBare

end ContractAudit.Terminal
