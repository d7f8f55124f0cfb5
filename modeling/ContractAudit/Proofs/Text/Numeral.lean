/-
  Numerals are read back.

  * `readInt?_showInt`: an integer whose numeral is within the limit is read back from it;
  * `fitsNumeral_of_readInt?`: and no others are read, whatever the numeral looks like.
-/
import Mathlib.Data.List.TakeWhile
import Mathlib.Data.Nat.Digits.Defs
import ContractAudit.Proofs.Json.Strings
import ContractAudit.Text.Numeral

namespace ContractAudit.Text

/-! ## Digits -/

theorem digitValue?_of_isDigit {c : Char} (h : c.isDigit = true) :
    digitValue? c = some (c.toNat - '0'.toNat) := by
  have hrange : 48 ≤ c.toNat ∧ c.toNat ≤ 57 := Char.isDigit_iff_toNat.1 h
  have hzero : (48 ≤ c.toNat && c.toNat < 48 + 10) = true := by
    simp only [Bool.and_eq_true, decide_eq_true_eq]
    omega
  have hfind : (zeroDigits.find? fun z => z ≤ c.toNat && c.toNat < z + 10) = some 48 :=
    List.find?_cons_of_pos hzero
  rw [digitValue?, hfind]
  rfl

theorem lt_ten_of_digitValue? {c : Char} {d : Nat} (h : digitValue? c = some d) : d < 10 := by
  obtain ⟨z, hz, rfl⟩ := Option.map_eq_some_iff.1 h
  have hrange := List.find?_some hz
  simp only [Bool.and_eq_true, decide_eq_true_eq] at hrange
  omega

/-- Plain digits are read one by one. -/
theorem readDigits?_of_isDigit {cs : List Char} (h : ∀ c ∈ cs, c.isDigit = true) {pending : Bool}
    (hne : pending = true → cs ≠ []) :
    readDigits? pending cs = some (cs.map (·.toNat - '0'.toNat)) := by
  induction cs generalizing pending with
  | nil =>
    cases pending with
    | false => rfl
    | true => exact absurd rfl (hne rfl)
  | cons c cs ih =>
    rw [List.forall_mem_cons] at h
    have hunderscore : ¬ (c == '_') = true := by
      rw [beq_iff_eq]
      rintro rfl
      exact absurd h.1 (by decide)
    have hrest : readDigits? false cs = some (cs.map (·.toNat - '0'.toNat)) :=
      ih h.2 Bool.false_ne_true.elim
    rw [readDigits?, if_neg hunderscore, digitValue?_of_isDigit h.1, hrest]
    rfl

theorem lt_ten_of_readDigits? {pending : Bool} {s : List Char} {ds : List Nat}
    (h : readDigits? pending s = some ds) : ∀ d ∈ ds, d < 10 := by
  induction s generalizing pending ds with
  | nil =>
    cases pending with
    | false => cases h; nofun
    | true => cases h
  | cons c rest ih =>
    rw [readDigits?] at h
    split_ifs at h with hunderscore hpending
    · exact ih h
    · obtain ⟨d, hd, h⟩ := Option.bind_eq_some_iff.1 h
      obtain ⟨ds, hds, h⟩ := Option.bind_eq_some_iff.1 h
      cases h
      exact List.forall_mem_cons.2 ⟨lt_ten_of_digitValue? hd, ih hds⟩

theorem ofDigits_lt {ds : List Nat} (h : ∀ d ∈ ds, d < 10) : ofDigits ds < 10 ^ ds.length := by
  have hreverse : ofDigits ds = Nat.ofDigits 10 ds.reverse := by
    simp only [ofDigits, Nat.ofDigits_eq_foldr, List.foldr_reverse, Nat.cast_id, Nat.add_comm]
  rw [hreverse, ← List.length_reverse]
  exact Nat.ofDigits_lt_base_pow_length (by decide) fun d hd => h d (List.mem_reverse.1 hd)

/-! ## Numbers -/

/-- The plain numeral of a number is read back. -/
theorem readNat?_toDigits {n : Nat} (h : (Nat.toDigits 10 n).length ≤ maxDigits) :
    readNat? (Nat.toDigits 10 n) = some n := by
  have hdigits : readDigits? true (Nat.toDigits 10 n) =
      some ((Nat.toDigits 10 n).map (·.toNat - '0'.toNat)) :=
    readDigits?_of_isDigit
      (fun c hc => Nat.isDigit_of_mem_toDigits (by decide) (by decide) hc)
      fun _ => Nat.toDigits_ne_nil
  have hvalue : ofDigits ((Nat.toDigits 10 n).map (·.toNat - '0'.toNat)) = n := by
    rw [ofDigits, List.foldl_map, ← Nat.ofDigitChars_eq_foldl, Nat.ofDigitChars_ten_toDigits]
  rw [readNat?, hdigits]
  simp only [Option.bind_eq_bind, Option.bind_some, List.length_map, if_pos h, hvalue]

theorem lt_of_readNat? {s : List Char} {n : Nat} (h : readNat? s = some n) :
    n < 10 ^ maxDigits := by
  obtain ⟨ds, hds, h⟩ := Option.bind_eq_some_iff.1 h
  split_ifs at h with hlength
  cases h
  exact (ofDigits_lt (lt_ten_of_readDigits? hds)).trans_le
    (Nat.pow_le_pow_right (by decide) hlength)

/-! ## Integers -/

theorem toNat_of_isNumeralChar {c : Char} (h : Json.isNumeralChar c = true) :
    45 ≤ c.toNat ∧ c.toNat ≤ 57 := by
  rw [Json.isNumeralChar, Bool.or_eq_true, beq_iff_eq] at h
  rcases h with h | rfl
  · obtain ⟨hlo, hhi⟩ := Char.isDigit_iff_toNat.1 h
    exact ⟨(by decide : 45 ≤ '0'.toNat).trans hlo, hhi⟩
  · decide

theorem isBlank_eq_false {c : Char} (h : Json.isNumeralChar c = true) :
    isBlank c = false := by
  have hrange := toNat_of_isNumeralChar h
  simp only [isBlank, Bool.or_eq_false_iff, Bool.and_eq_false_iff, decide_eq_false_iff_not,
    beq_eq_false_iff_ne]
  omega

theorem trimNumeral_showInt (n : Int) : trimNumeral (showInt n).toList = (showInt n).toList := by
  have hblank : ∀ c ∈ (showInt n).toList, ¬ isNumeralBlank c = true := by
    intro c hc
    rw [isNumeralBlank, isBlank_eq_false (Json.isNumeralChar_of_mem_showInt hc),
      Bool.false_and]
    exact Bool.false_ne_true
  have hfirst : (showInt n).toList.dropWhile isNumeralBlank = (showInt n).toList :=
    List.dropWhile_eq_self_iff.2 fun hl => hblank _ (List.getElem_mem hl)
  have hlast : (showInt n).toList.reverse.dropWhile isNumeralBlank = (showInt n).toList.reverse :=
    List.dropWhile_eq_self_iff.2 fun hl => hblank _ (List.mem_reverse.1 (List.getElem_mem hl))
  rw [trimNumeral, hfirst, hlast, List.reverse_reverse]

/-- **An integer is read back from its numeral**, if this is within the limit. -/
theorem readInt?_showInt {n : Int} (h : fitsNumeral n = true) :
    readInt? (showInt n).toList = some n := by
  have hlength := of_decide_eq_true h
  rw [readInt?, trimNumeral_showInt]
  cases n with
  | ofNat m =>
    have hsign : ∀ c rest, Nat.toDigits 10 m = c :: rest → c.isDigit = true := fun c rest hc =>
      Nat.isDigit_of_mem_toDigits (n := m) (b := 10) (by decide) (by decide)
        (hc ▸ List.mem_cons_self)
    rw [showInt, String.toList_ofList]
    split
    · next rest hplus => exact absurd (hsign _ rest hplus) (by decide)
    · next rest hminus => exact absurd (hsign _ rest hminus) (by decide)
    · exact congrArg (Option.map Int.ofNat) (readNat?_toDigits hlength)
  | negSucc m =>
    rw [showInt, String.toList_ofList]
    exact congrArg (Option.map fun n => -Int.ofNat n) (readNat?_toDigits hlength)

theorem length_showInt_le {n k : Nat} (hk : 0 < k) (h : n < 10 ^ k) :
    (showInt n).toList.length ≤ k := by
  show (String.ofList (Nat.toDigits 10 n)).toList.length ≤ k
  rw [String.toList_ofList]
  exact (Nat.length_toDigits_le_iff (by decide) hk).2 h

theorem fitsNumeral_iff {n : Int} : fitsNumeral n = true ↔ n.natAbs < 10 ^ maxDigits := by
  rw [fitsNumeral, decide_eq_true_iff]
  exact Nat.length_toDigits_le_iff (by decide) (by decide)

/-- **What is read has a numeral within the limit.** -/
theorem fitsNumeral_of_readInt? {s : List Char} {n : Int} (h : readInt? s = some n) :
    fitsNumeral n = true := by
  rw [fitsNumeral_iff]
  rw [readInt?] at h
  split at h <;> obtain ⟨m, hm, rfl⟩ := Option.map_eq_some_iff.1 h
  · exact lt_of_readNat? hm
  · rw [Int.natAbs_neg]
    exact lt_of_readNat? hm
  · exact lt_of_readNat? hm

end ContractAudit.Text
