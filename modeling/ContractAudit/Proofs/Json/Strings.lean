/-
  Written strings and numerals can be told from what follows them.

  * `stringBody?_writeString`: a written string is read back, whatever comes after it;
  * `writeString_append_inj` and `showInt_append_inj`: a text begins with at most one written
    string, and with at most one numeral that ends where no digit follows.
-/
import ContractAudit.Json.Reader
import ContractAudit.Json.Writer

namespace ContractAudit.Json

/-! ## Strings -/

theorem hex_control :
    ∀ n < 32, (Text.hex 4 n).length = 4 ∧ Text.readHex? (Text.hex 4 n) = some n := by
  decide

theorem stringBody?_badEscape {a b c d : Char} (h : Text.readHex? [a, b, c, d] = none)
    (acc rest : List Char) : stringBody? acc ('\\' :: 'u' :: a :: b :: c :: d :: rest) = none := by
  by_cases hx : ∃ e f g h r, rest = '\\' :: 'u' :: e :: f :: g :: h :: r
  · obtain ⟨e, f, g, i, r, rfl⟩ := hx
    rw [stringBody?, h]
  · rw [stringBody?, h]
    intro e f g i r hr
    exact hx ⟨e, f, g, i, r, hr⟩

/-- An escape of a code point below the surrogates stands for its character, whatever follows. -/
theorem stringBody?_escape {a b c d : Char} {n : Nat} (h : Text.readHex? [a, b, c, d] = some n)
    (hn : n < 0xD800) (acc rest : List Char) :
    stringBody? acc ('\\' :: 'u' :: a :: b :: c :: d :: rest) =
      stringBody? (Char.ofNat n :: acc) rest := by
  have hunpaired : unpaired n = Char.ofNat n := by
    rw [unpaired, if_neg]; simp; omega
  by_cases hx : ∃ e f g h r, rest = '\\' :: 'u' :: e :: f :: g :: h :: r
  · -- two escapes in a row: the first one is no half of a pair
    obtain ⟨e, f, g, i, r, rfl⟩ := hx
    rw [stringBody?, h]
    cases hm : Text.readHex? [e, f, g, i] with
    | none => rw [stringBody?_badEscape hm]
    | some m =>
      have hpaired : paired? n m = none := by
        rw [paired?, if_neg]; simp; omega
      simp only [hpaired, hunpaired]
  · rw [stringBody?, h]
    · simp only [hunpaired]
    · intro e f g i r hr
      exact hx ⟨e, f, g, i, r, hr⟩

/-- How a character is written: after a backslash, by its code point, or as it is. -/
theorem escapedChar_cases (c : Char) :
    (∃ e, e ≠ 'u' ∧ escaped? e = some c ∧ escapedChar false c = ['\\', e]) ∨
      (c.toNat < 32 ∧ escapedChar false c = '\\' :: 'u' :: Text.hex 4 c.toNat) ∨
      (c ≠ '"' ∧ c ≠ '\\' ∧ 32 ≤ c.toNat ∧ escapedChar false c = [c]) := by
  by_cases h : c ∈ ['"', '\\', '\x08', '\t', '\n', '\x0c', '\r']
  · simp only [List.mem_cons, List.not_mem_nil, or_false] at h
    rcases h with rfl | rfl | rfl | rfl | rfl | rfl | rfl <;>
      exact Or.inl ⟨_, by decide, by decide, rfl⟩
  · simp only [List.mem_cons, List.not_mem_nil, or_false, not_or] at h
    obtain ⟨h₁, h₂, h₃, h₄, h₅, h₆, h₇⟩ := h
    right
    simp only [escapedChar, beq_iff_eq, h₁, h₂, h₃, h₄, h₅, h₆, h₇, if_false, Bool.false_and,
      Bool.false_eq_true]
    by_cases hc : c.toNat < 32
    · left
      rw [if_pos hc, unicodeEscape, if_pos (by omega)]
      exact ⟨hc, rfl⟩
    · right
      rw [if_neg hc]
      exact ⟨h₁, h₂, by omega, rfl⟩

theorem stringBody?_escapedChar (acc : List Char) (c : Char) (rest : List Char) :
    stringBody? acc (escapedChar false c ++ rest) = stringBody? (c :: acc) rest := by
  rcases escapedChar_cases c with ⟨e, hu, he, hc⟩ | ⟨hlt, hc⟩ | ⟨hq, hb, hle, hc⟩
  · rw [hc, List.cons_append, List.singleton_append, stringBody?]
    · rw [he]
    · exact fun _ _ _ _ _ _ _ _ _ h => absurd h hu
    · exact fun _ _ _ _ _ h => absurd h hu
  · obtain ⟨hlen, hread⟩ := hex_control c.toNat hlt
    rw [hc]
    match hhex : Text.hex 4 c.toNat, hlen with
    | [x, y, z, w], _ =>
      rw [hhex] at hread
      have h := stringBody?_escape hread (by omega) acc rest
      rwa [Char.ofNat_toNat] at h
  · rw [hc, List.singleton_append, stringBody?]
    · rw [if_neg]; simp [hb]; omega
    · exact hq
    · exact fun _ _ _ _ _ _ _ _ _ h => absurd h hb
    · exact fun _ _ _ _ _ h => absurd h hb
    · exact fun _ _ h => absurd h hb

/-- Written characters are read back up to the closing quote. -/
theorem stringBody?_flatMap (cs acc rest : List Char) :
    stringBody? acc (cs.flatMap (escapedChar false) ++ '"' :: rest) =
      some (String.ofList (acc.reverse ++ cs), rest) := by
  induction cs generalizing acc with
  | nil => rw [List.flatMap_nil, List.nil_append, stringBody?, List.append_nil]
  | cons c cs ih =>
    rw [List.flatMap_cons, List.append_assoc, stringBody?_escapedChar, ih, List.reverse_cons,
      List.append_assoc, List.singleton_append]

/-- **A written string is read back**, whatever comes after it. -/
theorem stringBody?_writeString (s : String) (rest : List Char) :
    writeString false s ++ rest = '"' :: (s.toList.flatMap (escapedChar false) ++ '"' :: rest) ∧
      stringBody? [] (s.toList.flatMap (escapedChar false) ++ '"' :: rest) = some (s, rest) := by
  constructor
  · rw [writeString, List.cons_append, List.cons_append, List.append_assoc, List.singleton_append]
  · rw [stringBody?_flatMap, List.reverse_nil, List.nil_append, String.ofList_toList]

theorem writeString_append_inj {s t : String} {r r' : List Char}
    (h : writeString false s ++ r = writeString false t ++ r') : s = t ∧ r = r' := by
  obtain ⟨hs, hsr⟩ := stringBody?_writeString s r
  obtain ⟨ht, htr⟩ := stringBody?_writeString t r'
  rw [hs, ht, List.cons.injEq] at h
  rw [h.2, htr, Option.some.injEq, Prod.mk.injEq] at hsr
  exact ⟨hsr.1.symm, hsr.2.symm⟩

/-! ## Numerals -/

/-- The characters of a numeral. -/
def isNumeralChar (c : Char) : Bool :=
  c.isDigit || c == '-'

theorem isNumeralChar_of_mem_showInt {n : Int} {c : Char} (h : c ∈ (Text.showInt n).toList) :
    isNumeralChar c = true := by
  have hdigit : ∀ {m : Nat}, c ∈ Nat.toDigits 10 m → isNumeralChar c = true := fun hm => by
    rw [isNumeralChar, Nat.isDigit_of_mem_toDigits (by decide) (by decide) hm, Bool.true_or]
  cases n with
  | ofNat m => rw [Text.showInt, String.toList_ofList] at h; exact hdigit h
  | negSucc m =>
    rw [Text.showInt, String.toList_ofList, List.mem_cons] at h
    rcases h with rfl | h
    · rfl
    · exact hdigit h

theorem showInt_ne_nil (n : Int) : (Text.showInt n).toList ≠ [] := by
  cases n <;> simp [Text.showInt, Nat.toDigits_ne_nil]

theorem toDigits_injective {m n : Nat} (h : Nat.toDigits 10 m = Nat.toDigits 10 n) : m = n := by
  rw [← Nat.ofDigitChars_ten_toDigits (n := m), h, Nat.ofDigitChars_ten_toDigits]

/-- No two integers have the same numeral. -/
theorem showInt_injective {m n : Int} (h : Text.showInt m = Text.showInt n) : m = n := by
  have hminus : ∀ {k l : Nat}, Nat.toDigits 10 k = '-' :: Nat.toDigits 10 l → False := by
    intro k l h
    have hd := Nat.isDigit_of_mem_toDigits (b := 10) (n := k) (c := '-') (by decide) (by decide)
      (by rw [h]; exact List.mem_cons_self)
    exact absurd hd (by decide)
  cases m with
  | ofNat k => cases n with
    | ofNat l => rw [toDigits_injective (String.ofList_injective h)]
    | negSucc l => exact (hminus (String.ofList_injective h)).elim
  | negSucc k => cases n with
    | ofNat l => exact (hminus (String.ofList_injective h).symm).elim
    | negSucc l =>
      have hk := toDigits_injective (List.cons.inj (String.ofList_injective h)).2
      rw [Nat.add_right_cancel hk]

/-- A text begins with at most one numeral that ends where no digit follows. -/
theorem showInt_append_inj {m n : Int} {c d : Char} {r r' : List Char}
    (hc : isNumeralChar c = false) (hd : isNumeralChar d = false)
    (h : (Text.showInt m).toList ++ c :: r = (Text.showInt n).toList ++ d :: r') :
    m = n ∧ c :: r = d :: r' := by
  have htake : ∀ (k : Int) {e : Char} {t : List Char}, isNumeralChar e = false →
      ((Text.showInt k).toList ++ e :: t).takeWhile isNumeralChar = (Text.showInt k).toList := by
    intro k e t he
    rw [List.takeWhile_append_of_pos fun x hx => isNumeralChar_of_mem_showInt hx,
      List.takeWhile_cons_of_neg (by simp [he]), List.append_nil]
  have hs : (Text.showInt m).toList = (Text.showInt n).toList := by
    rw [← htake m hc, h, htake n hd]
  rw [hs] at h
  exact ⟨showInt_injective (String.toList_injective hs), List.append_cancel_left h⟩

end ContractAudit.Json
