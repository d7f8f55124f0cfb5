/-
  Encoded texts that are cut.

  * `Encoding n bytes` lists the bytes of the code point `n`, with one form for each size;
    `encoding_utf8EncodeChar`: those of a character have the form for its code point.
  * `sequence_append`: the bytes of a character are read back, whatever comes after them;
    `sequence_take`: a beginning of them is one broken sequence; `sequence_of_isContinuation`: a
    byte that continues a sequence is broken by itself; `decodeLossy_encode`: so an encoded text is
    read back.
  * `Slice bytes k chars cut`: the bytes are `k` that continue a character, those of whole
    characters, and, if `cut`, a beginning of a further one.  `Slice.toList_decodeLossy` says what
    is read from such bytes, and `Slice.count_decodeLossy` that decoding neither adds nor drops a
    line feed.
-/
import Mathlib.Data.List.Count
import Mathlib.Data.List.TakeDrop
import Mathlib.Tactic.IntervalCases
import ContractAudit.Text.Utf8

namespace ContractAudit.Text.Utf8

/-! ## Bytes -/

theorem inRange_iff {lo hi b : UInt8} :
    (decide (lo ≤ b) && decide (b ≤ hi)) = true ↔ lo.toNat ≤ b.toNat ∧ b.toNat ≤ hi.toNat := by
  rw [Bool.and_eq_true, decide_eq_true_iff, decide_eq_true_iff, UInt8.le_iff_toNat_le,
    UInt8.le_iff_toNat_le]

theorem isContinuation_iff {b : UInt8} :
    isContinuation b = true ↔ 0x80 ≤ b.toNat ∧ b.toNat ≤ 0xBF :=
  inRange_iff

theorem isSecond_iff {a b : UInt8} :
    isSecond a b = true ↔ (0x80 ≤ b.toNat ∧ b.toNat ≤ 0xBF) ∧
      (a.toNat = 0xE0 → 0xA0 ≤ b.toNat) ∧ (a.toNat = 0xED → b.toNat ≤ 0x9F) ∧
      (a.toNat = 0xF0 → 0x90 ≤ b.toNat) ∧ (a.toNat = 0xF4 → b.toNat ≤ 0x8F) := by
  simp only [isSecond, beq_iff_eq, ← UInt8.toNat_inj, UInt8.reduceToNat]
  split_ifs <;> simp only [isContinuation_iff, inRange_iff, UInt8.reduceToNat] <;> omega

theorem sequence_of_isContinuation {b : UInt8} (h : isContinuation b = true) (rest : List UInt8) :
    sequence b rest = (none, 0) := by
  rw [isContinuation_iff] at h
  unfold sequence
  simp only [UInt8.lt_iff_toNat_lt, inRange_iff, UInt8.reduceToNat]
  rw [if_neg (by omega), if_neg (by omega), if_neg (by omega), if_neg (by omega)]

/-! ## Characters -/

/-- The bytes of a code point, in the form for its size. -/
inductive Encoding (n : Nat) : List UInt8 → Prop
  | one {a} (ha : a.toNat = n) (hi : n < 0x80) : Encoding n [a]
  | two {a b} (ha : a.toNat = 0xC0 + n / 64) (hb : b.toNat = 0x80 + n % 64) (lo : 0x80 ≤ n)
      (hi : n < 0x800) : Encoding n [a, b]
  | three {a b c} (ha : a.toNat = 0xE0 + n / 4096) (hb : b.toNat = 0x80 + n / 64 % 64)
      (hc : c.toNat = 0x80 + n % 64) (lo : 0x800 ≤ n) (hi : n < 0x10000)
      (hs : n < 0xD800 ∨ 0xDFFF < n) : Encoding n [a, b, c]
  | four {a b c d} (ha : a.toNat = 0xF0 + n / 262144) (hb : b.toNat = 0x80 + n / 4096 % 64)
      (hc : c.toNat = 0x80 + n / 64 % 64) (hd : d.toNat = 0x80 + n % 64) (lo : 0x10000 ≤ n)
      (hi : n < 0x110000) : Encoding n [a, b, c, d]

/-- A character is encoded in the form for its code point. -/
theorem encoding_utf8EncodeChar (c : Char) : Encoding c.toNat (String.utf8EncodeChar c) := by
  have hvalid : c.toNat < 0xD800 ∨ 0xDFFF < c.toNat ∧ c.toNat < 0x110000 := c.valid
  have htoNat : c.val.toNat = c.toNat := rfl
  rw [String.utf8EncodeChar, htoNat]
  split_ifs
  · exact .one (by simp; omega) (by omega)
  · exact .two (by simp; omega) (by simp; omega) (by omega) (by omega)
  · exact .three (by simp; omega) (by simp; omega) (by simp; omega) (by omega) (by omega) (by omega)
  · exact .four (by simp; omega) (by simp; omega) (by simp; omega) (by simp; omega) (by omega)
      (by omega)

theorem exists_utf8EncodeChar (c : Char) :
    ∃ a bs, String.utf8EncodeChar c = a :: bs ∧ Encoding c.toNat (a :: bs) ∧
      bs.length + 1 = c.utf8Size := by
  obtain ⟨a, bs, h⟩ := List.exists_cons_of_ne_nil (String.utf8EncodeChar_ne_nil (c := c))
  have hform := encoding_utf8EncodeChar c
  have hlength := String.length_utf8EncodeChar c
  rw [h] at hform hlength
  exact ⟨a, bs, h, hform, hlength⟩

namespace Encoding
variable {n : Nat} {a : UInt8} {bs : List UInt8}

/-- The bytes of a code point are read back, whatever comes after them. -/
theorem sequence_append (h : Encoding n (a :: bs)) (rest : List UInt8) :
    sequence a (bs ++ rest) = (some (Char.ofNat n), bs.length) := by
  cases h with
  | one ha hi =>
    have hascii : a < 0x80 := by rw [UInt8.lt_iff_toNat_lt, ha]; exact hi
    unfold sequence
    rw [if_pos hascii, ha, List.length_nil]
  | @two _ b ha hb lo hi =>
    have hvalue : a.toNat % 32 * 64 + payload b = n := by rw [payload]; omega
    simp only [sequence, List.cons_append, List.nil_append, UInt8.lt_iff_toNat_lt, inRange_iff,
      UInt8.reduceToNat, hvalue]
    rw [if_neg (by omega), if_pos (by omega), if_pos (isContinuation_iff.2 (by omega))]
    rfl
  | @three _ b c ha hb hc lo hi hs =>
    have hvalue : (a.toNat % 16 * 64 + payload b) * 64 + payload c = n := by
      rw [payload, payload]; omega
    simp only [sequence, List.cons_append, List.nil_append, UInt8.lt_iff_toNat_lt, inRange_iff,
      UInt8.reduceToNat, hvalue]
    rw [if_neg (by omega), if_neg (by omega), if_pos (by omega),
      if_pos (isSecond_iff.2 (by omega)), if_pos (isContinuation_iff.2 (by omega))]
    rfl
  | @four _ b c d ha hb hc hd lo hi =>
    have hvalue : ((a.toNat % 8 * 64 + payload b) * 64 + payload c) * 64 + payload d = n := by
      rw [payload, payload, payload]; omega
    simp only [sequence, List.cons_append, List.nil_append, UInt8.lt_iff_toNat_lt, inRange_iff,
      UInt8.reduceToNat, hvalue]
    rw [if_neg (by omega), if_neg (by omega), if_neg (by omega), if_pos (by omega),
      if_pos (isSecond_iff.2 (by omega)), if_pos (isContinuation_iff.2 (by omega)),
      if_pos (isContinuation_iff.2 (by omega))]
    rfl

/-- A beginning of the bytes of a code point is one broken sequence. -/
theorem sequence_take (h : Encoding n (a :: bs)) {k : Nat} (hk : k < bs.length) :
    sequence a (bs.take k) = (none, k) := by
  cases h with
  | one => cases hk
  | two ha hb lo hi =>
    obtain rfl : k = 0 := by simpa using hk
    grind [sequence, UInt8.lt_iff_toNat_lt]
  | @three _ b c ha hb hc lo hi hs =>
    have hsecond : isSecond a b = true := isSecond_iff.2 (by omega)
    simp only [List.length_cons, List.length_nil] at hk
    interval_cases k <;> grind [sequence, UInt8.lt_iff_toNat_lt, UInt8.le_iff_toNat_le]
  | @four _ b c d ha hb hc hd lo hi =>
    have hsecond : isSecond a b = true := isSecond_iff.2 (by omega)
    have hthird : isContinuation c = true := isContinuation_iff.2 (by omega)
    simp only [List.length_cons, List.length_nil] at hk
    interval_cases k <;> grind [sequence, UInt8.lt_iff_toNat_lt, UInt8.le_iff_toNat_le]

theorem isContinuation_of_mem (h : Encoding n (a :: bs)) :
    ∀ b ∈ bs, isContinuation b = true := by
  cases h <;> simp only [List.forall_mem_cons, isContinuation_iff, List.not_mem_nil, false_imp_iff,
    implies_true, and_true] <;> omega

theorem count_feed (h : Encoding n (a :: bs)) :
    (a :: bs).count 10 = if n = 10 then 1 else 0 := by
  have hrest : bs.count 10 = 0 := List.count_eq_zero.2 fun hmem => by
    have := h.isContinuation_of_mem 10 hmem
    cases this
  rw [List.count_cons, hrest, Nat.zero_add]
  simp only [beq_iff_eq, ← UInt8.toNat_inj, UInt8.reduceToNat]
  cases h <;> congr 1 <;> rw [eq_iff_iff] <;> omega

end Encoding

theorem isContinuation_of_mem_drop {c : Char} {k : Nat} (hpos : 0 < k) :
    ∀ b ∈ (String.utf8EncodeChar c).drop k, isContinuation b = true := by
  obtain ⟨a, bs, h, hform, -⟩ := exists_utf8EncodeChar c
  obtain ⟨k, rfl⟩ := Nat.exists_eq_succ_of_ne_zero hpos.ne'
  rw [h, List.drop_succ_cons]
  exact fun b hb => hform.isContinuation_of_mem b (List.mem_of_mem_drop hb)

/-- The bytes of a line feed are one, and no other character has such a byte. -/
theorem count_utf8EncodeChar (c : Char) :
    (String.utf8EncodeChar c).count 10 = if c = '\n' then 1 else 0 := by
  obtain ⟨a, bs, h, hform, -⟩ := exists_utf8EncodeChar c
  have hfeed : c.toNat = 10 ↔ c = '\n' := Char.toNat_inj (d := '\n')
  rw [h, hform.count_feed]
  simp only [hfeed]

/-! ## Sequences -/

theorem sequences_utf8EncodeChar_append (c : Char) (rest : List UInt8) :
    sequences (String.utf8EncodeChar c ++ rest) = some c :: sequences rest := by
  obtain ⟨a, bs, h, hform, -⟩ := exists_utf8EncodeChar c
  rw [h, List.cons_append, sequences, hform.sequence_append, Char.ofNat_toNat, List.drop_left]

theorem sequences_take_utf8EncodeChar {c : Char} {k : Nat} (hpos : 0 < k) (hk : k < c.utf8Size) :
    sequences ((String.utf8EncodeChar c).take k) = [none] := by
  obtain ⟨a, bs, h, hform, hlength⟩ := exists_utf8EncodeChar c
  obtain ⟨k, rfl⟩ := Nat.exists_eq_succ_of_ne_zero hpos.ne'
  have hk : k < bs.length := by omega
  rw [h, List.take_succ_cons, sequences, hform.sequence_take hk, List.drop_take_self, sequences]

theorem sequences_cons_of_isContinuation {b : UInt8} (h : isContinuation b = true)
    (rest : List UInt8) : sequences (b :: rest) = none :: sequences rest := by
  rw [sequences, sequence_of_isContinuation h, List.drop_zero]

/-! ## Slices of encoded texts -/

/-- Bytes that continue a character, those of whole characters, and then, if `cut`, a beginning of
a further one. -/
inductive Slice : List UInt8 → Nat → List Char → Bool → Prop
  | nil : Slice [] 0 [] false
  | cut {c k} (hpos : 0 < k) (hk : k < c.utf8Size) :
      Slice ((String.utf8EncodeChar c).take k) 0 [] true
  | char {bytes cs cut} (c : Char) (h : Slice bytes 0 cs cut) :
      Slice (String.utf8EncodeChar c ++ bytes) 0 (c :: cs) cut
  | stray {b bytes k cs cut} (hb : isContinuation b = true) (h : Slice bytes k cs cut) :
      Slice (b :: bytes) (k + 1) cs cut

namespace Slice
variable {bytes : List UInt8} {k : Nat} {cs : List Char} {cut : Bool}

theorem strays {bs : List UInt8} (hbs : ∀ b ∈ bs, isContinuation b = true)
    (h : Slice bytes 0 cs cut) : Slice (bs ++ bytes) bs.length cs cut := by
  induction bs with
  | nil => exact h
  | cons b bs ih =>
    rw [List.forall_mem_cons] at hbs
    exact .stray hbs.1 (ih hbs.2)

theorem chars (more : List Char) (h : Slice bytes 0 cs cut) :
    Slice (more.flatMap String.utf8EncodeChar ++ bytes) 0 (more ++ cs) cut := by
  induction more with
  | nil => exact h
  | cons c more ih =>
    rw [List.flatMap_cons, List.append_assoc]
    exact .char c ih

theorem sequences_eq (h : Slice bytes k cs cut) :
    sequences bytes =
      List.replicate k none ++ (cs.map some ++ if cut then [none] else []) := by
  induction h with
  | nil => rw [sequences]; rfl
  | cut hpos hk => exact sequences_take_utf8EncodeChar hpos hk
  | char c _ ih => rw [sequences_utf8EncodeChar_append, ih]; rfl
  | stray hb _ ih => rw [sequences_cons_of_isContinuation hb, ih]; rfl

/-- **What is read from cut bytes**: U+FFFD for each byte of the character in front, the whole
characters, and U+FFFD for a character that is cut at the end. -/
theorem toList_decodeLossy (h : Slice bytes k cs cut) :
    (decodeLossy bytes).toList =
      List.replicate k '\uFFFD' ++ (cs ++ if cut then ['\uFFFD'] else []) := by
  rw [decodeLossy, String.toList_ofList, h.sequences_eq]
  cases cut <;> simp

/-- The line feeds among the bytes are those among the whole characters. -/
theorem count_feeds (h : Slice bytes k cs cut) : bytes.count 10 = cs.count '\n' := by
  induction h with
  | nil => rfl
  | @cut c k hpos hk =>
    have hne : c ≠ '\n' := by
      rintro rfl
      have hsize : '\n'.utf8Size = 1 := rfl
      omega
    have hle := (List.take_sublist k (String.utf8EncodeChar c)).count_le 10
    rw [count_utf8EncodeChar, if_neg hne] at hle
    rw [List.count_nil, Nat.le_zero.1 hle]
  | @char bytes cs cut c _ ih =>
    rw [List.count_append, count_utf8EncodeChar, ih, List.count_cons, Nat.add_comm]
    simp only [beq_iff_eq]
  | @stray b bytes k cs cut hb _ ih =>
    have hne : b ≠ 10 := by
      rintro rfl
      cases hb
    rw [List.count_cons_of_ne hne, ih]

/-- **Decoding neither adds nor drops a line feed.** -/
theorem count_decodeLossy (h : Slice bytes k cs cut) :
    (decodeLossy bytes).toList.count '\n' = bytes.count 10 := by
  have hlast : ∀ cut : Bool, (if cut then ['\uFFFD'] else []).count '\n' = 0 := by decide
  have hfirst : (List.replicate k '\uFFFD').count '\n' = 0 := by
    rw [List.count_replicate, if_neg (by decide)]
  rw [h.toList_decodeLossy, List.count_append, List.count_append, hfirst, hlast, h.count_feeds,
    Nat.zero_add, Nat.add_zero]

end Slice

theorem decodeLossy_encode (text : String) : decodeLossy (encode text) = text := by
  have hslice := Slice.nil.chars text.toList
  rw [List.append_nil, List.append_nil] at hslice
  rw [← String.toList_inj, encode, hslice.toList_decodeLossy]
  simp

end ContractAudit.Text.Utf8
