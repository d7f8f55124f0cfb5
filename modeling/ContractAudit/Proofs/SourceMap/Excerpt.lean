/-
  What the text of a range consists of.

  * `located text` are the characters of a text with the offsets of their first bytes.  Of a range,
    `Span.leading` are the bytes that belong to characters that start before it, `Span.covered` the
    characters all of whose bytes it has, and it `CutsOff` a character that starts in it and ends
    after it.
  * `Span.slice_bytes`: the bytes of a range are these, in this order;
  * `Span.excerpt_exact`: so each leading byte is shown as U+FFFD, then come the characters that are
    covered, and then U+FFFD for one that is cut off;
  * `Span.excerpt_counts_lines`: the text of a range has a line feed for each line that the range
    goes on, and on one line a byte for each column.
-/
import Mathlib.Order.Interval.Finset.Nat
import ContractAudit.Proofs.SourceMap.LineFeeds
import ContractAudit.Proofs.Text.Utf8
import ContractAudit.SourceMap.Excerpt

namespace ContractAudit

open Text.Utf8

/-! ## Characters and ranges -/

/-- A character of a text, and the offset of its first byte. -/
structure Located where
  char : Char
  start : Nat

/-- The offset just after the character. -/
def Located.stop (p : Located) : Nat :=
  p.start + p.char.utf8Size

/-- The characters of a text that begins at offset `base`. -/
def locatedFrom (base : Nat) : List Char → List Located
  | [] => []
  | c :: cs => ⟨c, base⟩ :: locatedFrom (base + c.utf8Size) cs

/-- The characters of a text. -/
def located (text : String) : List Located :=
  locatedFrom 0 text.toList

theorem Located.start_lt_stop (p : Located) : p.start < p.stop :=
  Nat.lt_add_of_pos_right p.char.utf8Size_pos

theorem le_start_of_mem {base : Nat} {cs : List Char} {p : Located}
    (h : p ∈ locatedFrom base cs) : base ≤ p.start := by
  induction cs generalizing base with
  | nil => cases h
  | cons c cs ih =>
    rcases List.mem_cons.1 h with rfl | h
    · exact Nat.le_refl _
    · exact (Nat.le_add_right _ _).trans (ih h)

namespace Span

section
variable (s : Span) (ps : List Located)

/-- The bytes of the range that belong to characters that start before it. -/
def leading : Finset Nat :=
  (Finset.Ico s.offset s.stop).filter fun i =>
    ∃ p ∈ ps, p.start < s.offset ∧ p.start ≤ i ∧ i < p.stop

/-- The characters all of whose bytes are in the range, in order. -/
def covered : List Char :=
  (ps.filter fun p => s.offset ≤ p.start ∧ p.stop ≤ s.stop).map (·.char)

/-- Whether some character starts in the range and ends after it. -/
def CutsOff : Prop :=
  ∃ p ∈ ps, s.offset ≤ p.start ∧ p.start < s.stop ∧ s.stop < p.stop

instance : Decidable (s.CutsOff ps) :=
  inferInstanceAs (Decidable (∃ p ∈ ps, _))

end

variable {s : Span}

theorem covered_cons (p : Located) (ps : List Located) :
    s.covered (p :: ps) =
      (if s.offset ≤ p.start ∧ p.stop ≤ s.stop then [p.char] else []) ++ s.covered ps := by
  rw [covered, List.filter_cons]
  by_cases hin : s.offset ≤ p.start ∧ p.stop ≤ s.stop <;> simp [hin, covered]

theorem cutsOff_cons {p : Located} {ps : List Located} :
    s.CutsOff (p :: ps) ↔
      (s.offset ≤ p.start ∧ p.start < s.stop ∧ s.stop < p.stop) ∨ s.CutsOff ps := by
  simp only [CutsOff, List.mem_cons, exists_eq_or_imp]

variable {base : Nat} {cs : List Char}

theorem covered_of_stop_le (h : s.stop ≤ base) : s.covered (locatedFrom base cs) = [] := by
  rw [covered, List.map_eq_nil_iff, List.filter_eq_nil_iff]
  intro p hp hin
  have hbase := le_start_of_mem hp
  have hstop := p.start_lt_stop
  have hin := (of_decide_eq_true hin).2
  omega

theorem not_cutsOff_of_stop_le (h : s.stop ≤ base) : ¬ s.CutsOff (locatedFrom base cs) := by
  rintro ⟨p, hp, -, hin, -⟩
  have hbase := le_start_of_mem hp
  omega

/-- What a range has of a text that begins in it, or at its end. -/
theorem slice_take (h : s.offset ≤ base) :
    Slice ((cs.flatMap String.utf8EncodeChar).take (s.stop - base)) 0
      (s.covered (locatedFrom base cs)) (decide (s.CutsOff (locatedFrom base cs))) := by
  induction cs generalizing base with
  | nil => simpa [locatedFrom, covered, CutsOff] using Slice.nil
  | cons c cs ih =>
    have hlength := String.length_utf8EncodeChar c
    rw [List.flatMap_cons, locatedFrom, covered_cons]
    -- the range ends before the first character, in it, or after it
    rcases Nat.lt_or_ge base s.stop with hstart | hbefore
    · rcases Nat.lt_or_ge s.stop (base + c.utf8Size) with hinside | hafter
      · have hcut : s.CutsOff (⟨c, base⟩ :: locatedFrom (base + c.utf8Size) cs) :=
          cutsOff_cons.2 (.inl ⟨h, hstart, hinside⟩)
        rw [if_neg fun hin => absurd hin.2 (Nat.not_le.2 hinside),
          covered_of_stop_le hinside.le, decide_eq_true hcut,
          List.take_append_of_le_length (by omega)]
        exact .cut (by omega) (by omega)
      · have hcut : s.CutsOff (⟨c, base⟩ :: locatedFrom (base + c.utf8Size) cs) ↔
            s.CutsOff (locatedFrom (base + c.utf8Size) cs) := by
          rw [cutsOff_cons, or_iff_right fun hin => absurd hin.2.2 (Nat.not_lt.2 hafter)]
        rw [if_pos ⟨h, hafter⟩, decide_eq_decide.2 hcut, List.take_append,
          List.take_of_length_le (by omega), hlength, Nat.sub_sub]
        exact .char c (ih (h.trans (Nat.le_add_right _ _)))
    · have hcut : ¬ s.CutsOff (locatedFrom base (c :: cs)) := not_cutsOff_of_stop_le hbefore
      rw [locatedFrom] at hcut
      have hout : ¬ (Located.mk c base).stop ≤ s.stop :=
        Nat.not_le.2 (hbefore.trans_lt (Located.start_lt_stop ⟨c, base⟩))
      rw [if_neg fun hin => hout hin.2, covered_of_stop_le (by omega), decide_eq_false hcut,
        Nat.sub_eq_zero_of_le hbefore]
      exact .nil

/-- A range that begins before a text has none of its bytes in front. -/
theorem leading_of_offset_le (h : s.offset ≤ base) : s.leading (locatedFrom base cs) = ∅ := by
  rw [leading, Finset.filter_eq_empty_iff]
  rintro i - ⟨p, hp, hbefore, -⟩
  have hbase := le_start_of_mem hp
  omega

theorem leading_cons_of_stop_le {p : Located} {ps : List Located} (h : p.stop ≤ s.offset) :
    s.leading (p :: ps) = s.leading ps := by
  refine Finset.filter_congr fun i hi => ?_
  have hle := (Finset.mem_Ico.1 hi).1
  simp only [List.mem_cons, exists_eq_or_imp, or_iff_right_iff_imp]
  omega

/-- A range that begins in a character has the rest of its bytes in front. -/
theorem leading_cons_of_lt {p : Located} (hstart : p.start < s.offset) (hstop : s.offset < p.stop) :
    s.leading (p :: locatedFrom p.stop cs) = Finset.Ico s.offset (min s.stop p.stop) := by
  ext i
  simp only [leading, Finset.mem_filter, Finset.mem_Ico, List.mem_cons, exists_eq_or_imp]
  constructor
  · rintro ⟨⟨hle, hlt⟩, ⟨-, -, hi⟩ | ⟨q, hq, hbefore, -⟩⟩
    · omega
    · have hbase := le_start_of_mem hq
      omega
  · intro hi
    exact ⟨by omega, .inl (by omega)⟩

/-- **What a range has of a text that begins before it.** -/
theorem slice_drop_take (h : base ≤ s.offset) :
    Slice (((cs.flatMap String.utf8EncodeChar).drop (s.offset - base)).take s.length)
      (s.leading (locatedFrom base cs)).card (s.covered (locatedFrom base cs))
      (decide (s.CutsOff (locatedFrom base cs))) := by
  have hend : s.stop = s.offset + s.length := rfl
  induction cs generalizing base with
  | nil => simpa [locatedFrom, leading, covered, CutsOff] using Slice.nil
  | cons c cs ih =>
    have hlength := String.length_utf8EncodeChar c
    -- the range begins with the first character, in it, or after it
    rcases h.eq_or_lt with hfirst | hlt
    · have hlength : s.length = s.stop - base := by omega
      rw [leading_of_offset_le hfirst.ge, Finset.card_empty, Nat.sub_eq_zero_of_le hfirst.ge,
        List.drop_zero, hlength]
      exact slice_take hfirst.ge
    · have hout : ¬ s.offset ≤ base := Nat.not_le.2 hlt
      have hcut : s.CutsOff (⟨c, base⟩ :: locatedFrom (base + c.utf8Size) cs) ↔
          s.CutsOff (locatedFrom (base + c.utf8Size) cs) := by
        rw [cutsOff_cons, or_iff_right fun hin => hout hin.1]
      rw [List.flatMap_cons, locatedFrom, covered_cons, if_neg fun hin => hout hin.1,
        decide_eq_decide.2 hcut, List.nil_append]
      rcases Nat.lt_or_ge s.offset (base + c.utf8Size) with hinside | hafter
      · have hstrays : (((String.utf8EncodeChar c).drop (s.offset - base)).take s.length).length =
            (s.leading (⟨c, base⟩ :: locatedFrom (base + c.utf8Size) cs)).card := by
          have hlead : s.leading (⟨c, base⟩ :: locatedFrom (base + c.utf8Size) cs) =
              Finset.Ico s.offset (min s.stop (base + c.utf8Size)) :=
            leading_cons_of_lt (p := ⟨c, base⟩) hlt hinside
          rw [hlead, Nat.card_Ico, List.length_take, List.length_drop, hlength]
          omega
        have hrest : s.length - ((String.utf8EncodeChar c).drop (s.offset - base)).length =
            s.stop - (base + c.utf8Size) := by
          rw [List.length_drop, hlength]
          omega
        rw [List.drop_append_of_le_length (by omega), List.take_append, hrest, ← hstrays]
        refine (slice_take hinside.le).strays fun b hb => ?_
        exact isContinuation_of_mem_drop (by omega) b (List.mem_of_mem_take hb)
      · have hpast : (Located.mk c base).stop ≤ s.offset := hafter
        rw [leading_cons_of_stop_le hpast, List.drop_append, List.drop_of_length_le (by omega),
          List.nil_append, hlength, Nat.sub_sub]
        exact ih hafter

end Span

/-! ## Excerpts -/

/-- Offsets past the end cut nothing. -/
theorem between_natCast (bytes : List UInt8) (start stop : Nat) :
    between bytes start stop = (bytes.drop start).take (stop - start) := by
  have hclip : ∀ offset : Nat, clip bytes.length offset = min offset bytes.length := by
    intro offset
    rw [clip, if_neg (by omega), Int.toNat_natCast]
  rw [between, hclip, hclip]
  rcases Nat.le_total bytes.length start with hpast | hstart
  · rw [min_eq_right hpast, List.drop_length, List.drop_of_length_le hpast, List.take_nil,
      List.take_nil]
  · rw [min_eq_left hstart, List.take_eq_take_iff, List.length_drop]
    omega

namespace Span
variable (s : Span) (text : String)

/-- The bytes of a range. -/
def bytes : List UInt8 :=
  between (encode text) s.offset s.stop

theorem bytes_eq : s.bytes text = ((encode text).drop s.offset).take s.length := by
  rw [bytes, between_natCast, stop, Nat.add_sub_cancel_left]

/-- **The bytes of a range** are those of a character in front, of the characters that are covered,
and of one that is cut off. -/
theorem slice_bytes :
    Slice (s.bytes text) (s.leading (located text)).card (s.covered (located text))
      (decide (s.CutsOff (located text))) := by
  rw [bytes_eq]
  exact slice_drop_take (Nat.zero_le _)

end Span

theorem length_encode (text : String) : (encode text).length = text.utf8ByteSize := by
  have hbytes := String.toByteArray_ofList (l := text.toList)
  rw [String.ofList_toList] at hbytes
  rw [← String.size_toByteArray, hbytes, List.utf8Encode, List.size_toByteArray, encode]

theorem encode_append (a b : String) : encode (a ++ b) = encode a ++ encode b := by
  rw [encode, String.toList_append, List.flatMap_append, encode, encode]

/-- **The text of a range is exact.** It has U+FFFD for each byte that belongs to a character that
starts before the range, then the characters all of whose bytes are in the range, and then U+FFFD
if a character is cut off at the end.  So the part of a text that begins after `a` and is as long as
`b` is `b`. -/
theorem Span.excerpt_exact :
    (∀ (s : Span) (text : String),
      (s.excerpt text).toList =
        List.replicate (s.leading (located text)).card '\uFFFD' ++
          (s.covered (located text) ++
            if s.CutsOff (located text) then ['\uFFFD'] else [])) ∧
    ∀ a b c : String, (Span.mk a.utf8ByteSize b.utf8ByteSize).excerpt (a ++ b ++ c) = b := by
  constructor
  · intro s text
    have hslice := (s.slice_bytes text).toList_decodeLossy
    simp only [decide_eq_true_eq] at hslice
    exact hslice
  · intro a b c
    have hbytes : (Span.mk a.utf8ByteSize b.utf8ByteSize).bytes (a ++ b ++ c) = encode b := by
      rw [bytes_eq, encode_append, encode_append, List.append_assoc, ← length_encode,
        ← length_encode, List.drop_left, List.take_left]
    exact (congrArg decodeLossy hbytes).trans (decodeLossy_encode b)

/-- The range begins in one character and ends in another. -/
example : (Span.mk 1 6).excerpt "é€z𐀀" = "\uFFFD€z\uFFFD" := by decide +kernel

/-! ## Lines -/

theorem LineTable.length_feedsBelow (bytes : List UInt8) (offset : Nat) :
    (feedsBelow bytes offset).length = (bytes.take offset).count 10 := by
  induction bytes generalizing offset with
  | nil => simp
  | cons b rest ih =>
    cases offset with
    | zero => rfl
    | succ offset =>
      rw [feedsBelow_cons, List.length_append, List.length_map, ih, List.take_succ_cons,
        List.count_cons, Nat.add_comm]
      by_cases hb : b = 10 <;> simp [hb]

/-- **The text of a range goes on for as many lines as the range.** Each of its line feeds leads to
a further line, also where it cuts characters or is past the end; and within the text and on one
line, the columns are as far apart as the range has bytes. -/
theorem Span.excerpt_counts_lines (s : Span) (text : String) :
    ∃ first last, (LineTable.ofText text).range? s.offset s.length = .ok (first, last) ∧
      ((s.excerpt text).toList.count '\n' : Int) = last.line - first.line ∧
      (first.line = last.line → s.stop ≤ text.utf8ByteSize →
        ((s.bytes text).length : Int) = last.column - first.column) := by
  refine ⟨_, _, LineTable.range?_natCast _ s.offset s.length, ?_, fun hline hstop => ?_⟩
  · have hfeeds := (s.slice_bytes text).count_decodeLossy
    have htake := List.take_add (l := encode text) (i := s.offset) (j := s.length)
    have hexcerpt : s.excerpt text = decodeLossy (s.bytes text) := rfl
    simp only [LineTable.position, LineTable.ofText, LineTable.upTo_ofBytes, List.length_map,
      LineTable.length_feedsBelow]
    rw [hexcerpt, hfeeds, bytes_eq, htake, List.count_append]
    omega
  · have hsame := LineTable.upTo_eq_of_length_eq _ (Nat.add_right_cancel hline)
    have hstart := LineTable.getLast?_upTo_le (LineTable.ofText text) s.offset
    have hend : s.stop = s.offset + s.length := rfl
    rw [bytes_eq, List.length_take, List.length_drop, length_encode]
    simp only [LineTable.position, ← hsame]
    omega

/-- A range that begins in a character and ends with the text, on the second line. -/
theorem Span.cut_excerpt_counts_lines :
    (LineTable.ofText "é\n€z").range? 4 3 = .ok (⟨2, 1⟩, ⟨2, 4⟩) ∧
      (Span.mk 4 3).stop ≤ "é\n€z".utf8ByteSize ∧
      (((Span.mk 4 3).bytes "é\n€z").length : Int) = 4 - 1 := by
  have hplaces : (LineTable.ofText "é\n€z").range? 4 3 = .ok (⟨2, 1⟩, ⟨2, 4⟩) := by
    decide +kernel
  obtain ⟨first, last, hrange, -, hcolumns⟩ := Span.excerpt_counts_lines ⟨4, 3⟩ "é\n€z"
  obtain ⟨rfl, rfl⟩ := Prod.mk.inj (Except.ok.inj (hrange.symm.trans hplaces))
  exact ⟨hplaces, by decide +kernel, hcolumns rfl (by decide +kernel)⟩

end ContractAudit
