/-
  Positions count line feeds.

  * `feedsBelow bytes offset` are the positions of the line feeds below an offset, one look at each
    byte;
  * `startsFrom_eq`: the lines after the first start just after the line feeds;
  * `upTo_ofBytes`: the line starts up to an offset are those after the line feeds below it;
  * `position_counts_feeds`: hence the line of an offset is the number of these line feeds, and its
    column the distance from the last one.
-/
import ContractAudit.Proofs.SourceMap.Position

namespace ContractAudit.LineTable

/-! ## Line feeds -/

/-- The positions of the line feeds below an offset, in order. -/
def feedsBelow (bytes : List UInt8) (offset : Nat) : List Nat :=
  (List.range offset).filter fun i => bytes[i]? = some 10

@[simp] theorem feedsBelow_nil (offset : Nat) : feedsBelow [] offset = [] := by
  simp [feedsBelow]

@[simp] theorem feedsBelow_zero (bytes : List UInt8) : feedsBelow bytes 0 = [] := rfl

theorem feedsBelow_cons (b : UInt8) (rest : List UInt8) (offset : Nat) :
    feedsBelow (b :: rest) (offset + 1) =
      (if b = 10 then [0] else []) ++ (feedsBelow rest offset).map (· + 1) := by
  have htail : (fun i => decide ((b :: rest)[i]? = some 10)) ∘ Nat.succ =
      fun i => decide (rest[i]? = some 10) := rfl
  rw [feedsBelow, List.range_succ_eq_map, List.filter_cons, List.filter_map, htail]
  by_cases hb : b = 10 <;> simp [hb, feedsBelow]

theorem mem_feedsBelow {bytes : List UInt8} {offset i : Nat} :
    i ∈ feedsBelow bytes offset ↔ i < offset ∧ bytes[i]? = some 10 := by
  simp [feedsBelow]

theorem pairwise_feedsBelow (bytes : List UInt8) (offset : Nat) :
    (feedsBelow bytes offset).Pairwise (· < ·) :=
  List.pairwise_lt_range.filter _

/-! ## Line starts -/

theorem map_later (n : Nat) (feeds : List Nat) :
    feeds.map (n + 1 + · + 1) = (feeds.map (· + 1)).map (n + · + 1) := by
  rw [List.map_map]
  refine List.map_congr_left fun i _ => ?_
  rw [Function.comp_apply]
  omega

theorem startsFrom_eq (n : Nat) (bytes : List UInt8) :
    startsFrom n bytes = (feedsBelow bytes bytes.length).map (n + · + 1) := by
  induction bytes generalizing n with
  | nil => rfl
  | cons b rest ih =>
    rw [startsFrom, ih, map_later, List.length_cons, feedsBelow_cons]
    by_cases hb : b = 10 <;> simp [hb]

/-- The line starts up to an offset are those after the line feeds below it. -/
theorem takeWhile_startsFrom (n offset : Nat) (bytes : List UInt8) :
    (startsFrom n bytes).takeWhile (· ≤ n + offset) =
      (feedsBelow bytes offset).map (n + · + 1) := by
  -- each step takes a byte from the text and one from the offset
  induction bytes generalizing n offset with
  | nil => simp [startsFrom]
  | cons b rest ih =>
    cases offset with
    | zero =>
      rw [feedsBelow_zero, List.map_nil, List.eq_nil_iff_forall_not_mem]
      intro start hstart
      have hle : start ≤ n := by simpa using List.mem_takeWhile_imp hstart
      have hmem := (List.takeWhile_sublist _).mem hstart
      rw [startsFrom_eq, List.mem_map] at hmem
      obtain ⟨i, -, rfl⟩ := hmem
      omega
    | succ offset =>
      have hrest := ih (n + 1) offset
      rw [map_later, Nat.add_right_comm, Nat.add_assoc] at hrest
      rw [startsFrom, feedsBelow_cons]
      by_cases hb : b = 10
      · have hle : n + 1 ≤ n + (offset + 1) := by omega
        simp [hb, hrest, hle]
      · simp [hb, hrest]

section
variable (bytes : List UInt8)

theorem starts_ofBytes :
    (ofBytes bytes).starts = (feedsBelow bytes bytes.length).map (· + 1) := by
  rw [ofBytes, startsFrom_eq]
  simp only [Nat.zero_add]

theorem upTo_ofBytes (offset : Nat) :
    (ofBytes bytes).upTo offset = (feedsBelow bytes offset).map (· + 1) := by
  have h := takeWhile_startsFrom 0 offset bytes
  simp only [Nat.zero_add] at h
  exact h

theorem pairwise_starts : (ofBytes bytes).starts.Pairwise (· < ·) := by
  rw [starts_ofBytes, List.pairwise_map]
  exact (pairwise_feedsBelow bytes _).imp Nat.succ_lt_succ

/-- A line starts just after each line feed and nowhere else. -/
theorem mem_starts {start : Nat} :
    start ∈ (ofBytes bytes).starts ↔ ∃ i, bytes[i]? = some 10 ∧ start = i + 1 := by
  simp only [starts_ofBytes, List.mem_map, mem_feedsBelow]
  constructor
  · rintro ⟨i, ⟨-, hi⟩, rfl⟩
    exact ⟨i, hi, rfl⟩
  · rintro ⟨i, hi, rfl⟩
    exact ⟨i, ⟨(List.getElem?_eq_some_iff.1 hi).1, hi⟩, rfl⟩

end

theorem ofText_eq (text : String) : ofText text = ofBytes text.toUTF8.data.toList := by
  have hbytes := String.toByteArray_ofList (l := text.toList)
  rw [String.ofList_toList] at hbytes
  rw [ofText, Text.Utf8.encode, String.toUTF8_eq_toByteArray, hbytes, List.utf8Encode,
    List.data_toByteArray]

/-! ## Positions -/

/-- **A position counts line feeds.** The line of an offset, past the end as well, is one more than
the number of line feeds below it, and its column the distance from just after the last of them, or
from the start. The lines after the first start just after the line feeds, in order and within the
text. This holds of any bytes, and of a text with its bytes in UTF-8. -/
theorem position_counts_feeds :
    (∀ (bytes : List UInt8) (offset : Nat),
      (ofBytes bytes).position? offset = .ok {
        line := 1 + (feedsBelow bytes offset).length
        column := match (feedsBelow bytes offset).getLast? with
          | some i => offset - (i + 1)
          | none => offset }) ∧
    (∀ bytes : List UInt8,
      (ofBytes bytes).size = bytes.length ∧
      (ofBytes bytes).starts.Pairwise (· < ·) ∧
      (∀ start ∈ (ofBytes bytes).starts, 1 ≤ start ∧ start ≤ (ofBytes bytes).size) ∧
      ∀ start, start ∈ (ofBytes bytes).starts ↔ ∃ i, bytes[i]? = some 10 ∧ start = i + 1) ∧
    ∀ text : String, ofText text = ofBytes text.toUTF8.data.toList := by
  refine ⟨fun bytes offset => ?_, fun bytes => ⟨rfl, pairwise_starts bytes, fun start h => ?_,
    fun start => mem_starts bytes⟩, ofText_eq⟩
  · rw [position?_natCast, position, upTo_ofBytes, List.length_map, List.getLast?_map, Nat.add_comm]
    cases (feedsBelow bytes offset).getLast? <;> rfl
  · obtain ⟨i, hi, rfl⟩ := (mem_starts bytes).1 h
    exact ⟨Nat.le_add_left 1 i, (List.getElem?_eq_some_iff.1 hi).1⟩

/-- A line feed is on the line that it ends. -/
example : (ofText "a\nbc").position? 1 = .ok ⟨1, 1⟩ ∧ (ofText "a\nbc").position? 2 = .ok ⟨2, 0⟩ ∧
    (ofText "a\nbc").position? 9 = .ok ⟨2, 7⟩ := by decide +kernel

end ContractAudit.LineTable
