/-
  What is written in JSON is read back.

  * An exact value (`isExact`) holds no number with a fraction, no integer of more than
    `Text.maxDigits` digits and no object with a repeated key;
  * a layout separates (`Layout.Separates`) if it has white space only around its commas and colons
    and leaves the characters of strings unescaped where it can;
  * `number?_showInt`, `value_chars`, `items_elementChars` and `pairs_memberChars` read back each
    part of the grammar, whatever comes after it; `read_write` reads back a whole text.

  Any reader will do that follows as many levels as the value has, whether it is strict or not.
-/
import Mathlib.Data.List.TakeDrop
import ContractAudit.Proofs.Json.Strings

namespace ContractAudit.Json

/-! ## Exact values -/

mutual

/-- Whether a value survives being written and read. -/
def isExact : Json → Bool
  | null | bool _ | str _ => true
  | int n => decide ((Nat.toDigits 10 n.natAbs).length ≤ Text.maxDigits)
  | float _ => false
  | arr xs => areExact xs
  | obj ms => decide (Keyed.keys ms).Nodup && areExactMembers ms

/-- Whether all elements of an array do. -/
def areExact : List Json → Bool
  | [] => true
  | x :: xs => isExact x && areExact xs

/-- Whether the values of all members of an object do. -/
def areExactMembers : List (String × Json) → Bool
  | [] => true
  | (_, v) :: ms => isExact v && areExactMembers ms

end

theorem areExact_iff {xs : List Json} : areExact xs = true ↔ ∀ x ∈ xs, x.isExact = true := by
  induction xs with
  | nil => simp [areExact]
  | cons x xs ih => simp [areExact, ih]

theorem areExactMembers_iff {ms : List (String × Json)} :
    areExactMembers ms = true ↔ ∀ m ∈ ms, m.2.isExact = true := by
  induction ms with
  | nil => simp [areExactMembers]
  | cons m ms ih => obtain ⟨k, v⟩ := m; simp [areExactMembers, ih]

theorem ofPairs_eq_obj {ps : List (String × Json)} (h : (Keyed.keys ps).Nodup) :
    ofPairs ps = obj ps := by
  have hfold : ∀ (ps acc : Members), (Keyed.keys (acc ++ ps)).Nodup →
      ps.foldl (fun ms p => Keyed.insert p.1 p.2 ms) acc = acc ++ ps := by
    intro ps
    induction ps with
    | nil => simp
    | cons p ps ih =>
      intro acc hn
      have hp : p.1 ∉ Keyed.keys acc := by
        simp only [Keyed.keys, List.map_append, List.map_cons, List.nodup_append] at hn
        exact fun hmem => hn.2.2 _ hmem _ List.mem_cons_self rfl
      rw [List.foldl_cons, Keyed.insert_of_notMem hp, ih _ (by simpa using hn)]
      simp
  rw [ofPairs, hfold ps [] h, List.nil_append]

/-! ## White space -/

/-- Nothing but white space. -/
def Blank (s : List Char) : Prop := ∀ c ∈ s, isSpace c = true

theorem skipSpace_append {b : List Char} (hb : Blank b) (s : List Char) :
    skipSpace (b ++ s) = skipSpace s := by
  induction b with
  | nil => rfl
  | cons c b ih =>
    have hc : isSpace c = true := hb c List.mem_cons_self
    rw [List.cons_append, skipSpace, List.dropWhile_cons_of_pos hc]
    exact ih fun d hd => hb d (List.mem_cons_of_mem c hd)

theorem skipSpace_cons {c : Char} (hc : isSpace c = false) (s : List Char) :
    skipSpace (c :: s) = c :: s := by
  rw [skipSpace, List.dropWhile_cons_of_neg (by simp [hc])]

theorem Blank.append {b b' : List Char} (h : Blank b) (h' : Blank b') : Blank (b ++ b') := by
  intro c hc
  rcases List.mem_append.1 hc with hc | hc
  · exact h c hc
  · exact h' c hc

theorem Layout.blank_lineBreak (l : Layout) (depth : Nat) : Blank (l.lineBreak depth) := by
  intro c hc
  cases hi : l.indent with
  | none => simp [lineBreak, hi] at hc
  | some n =>
    simp only [lineBreak, hi, List.mem_cons, List.mem_replicate] at hc
    rcases hc with rfl | ⟨-, rfl⟩ <;> rfl

/-! ## Numbers -/

/-- Whether a number ends where this text begins. -/
def endsNumber : List Char → Bool
  | [] => true
  | c :: _ => !(isDigit c || c == '.' || c == 'e' || c == 'E')

theorem endsNumber_append {b s : List Char} (hb : Blank b) (hs : endsNumber s = true) :
    endsNumber (b ++ s) = true := by
  cases b with
  | nil => exact hs
  | cons c b =>
    have hc := hb c List.mem_cons_self
    simp only [isSpace, Bool.or_eq_true, beq_iff_eq] at hc
    rcases hc with ((rfl | rfl) | rfl) | rfl <;> rfl

theorem isDigit_of_mem_toDigits {n : Nat} {c : Char} (h : c ∈ Nat.toDigits 10 n) :
    isDigit c = true := by
  have hc := Nat.isDigit_of_mem_toDigits (b := 10) (by decide) (by decide) h
  simp only [Char.isDigit, Bool.and_eq_true, decide_eq_true_eq] at hc
  simp only [isDigit, Bool.and_eq_true, decide_eq_true_eq]
  exact hc

/-- Only zero is written with a zero in front. -/
theorem toDigits_head {n : Nat} (hn : n ≠ 0) :
    ∃ c cs, Nat.toDigits 10 n = c :: cs ∧ c ≠ '0' := by
  induction n using Nat.strongRecOn with
  | ind n ih =>
    by_cases hlt : n < 10
    · refine ⟨n.digitChar, [], Nat.toDigits_of_lt_base hlt, ?_⟩
      have hdigits : ∀ m < 10, m ≠ 0 → Nat.digitChar m ≠ '0' := by decide
      exact hdigits n hlt hn
    · obtain ⟨c, cs, hc, hne⟩ := ih (n / 10) (by omega) (by omega)
      refine ⟨c, cs ++ [(n % 10).digitChar], ?_, hne⟩
      rw [Nat.toDigits_of_base_le (by decide) (by omega), hc, List.cons_append]

/-- The digits of a numeral are told from what follows them. -/
theorem wholeDigits?_toDigits {n : Nat} {rest : List Char} (hrest : endsNumber rest = true) :
    wholeDigits? (Nat.toDigits 10 n ++ rest) = some (Nat.toDigits 10 n, rest) := by
  by_cases hn : n = 0
  · subst hn; rfl
  · have hspan : (Nat.toDigits 10 n ++ rest).span isDigit = (Nat.toDigits 10 n, rest) := by
      have hstop : rest.takeWhile isDigit = [] ∧ rest.dropWhile isDigit = rest := by
        cases rest with
        | nil => exact ⟨rfl, rfl⟩
        | cons c rest =>
          have hc : isDigit c = false := by
            simp only [endsNumber, Bool.not_eq_true', Bool.or_eq_false_iff] at hrest
            exact hrest.1.1.1
          exact ⟨List.takeWhile_cons_of_neg (by simp [hc]),
            List.dropWhile_cons_of_neg (by simp [hc])⟩
      rw [List.span_eq_takeWhile_dropWhile,
        List.takeWhile_append_of_pos fun c hc => isDigit_of_mem_toDigits hc,
        List.dropWhile_append_of_pos fun c hc => isDigit_of_mem_toDigits hc, hstop.1, hstop.2,
        List.append_nil]
    obtain ⟨c, cs, hc, hne⟩ := toDigits_head hn
    have hdigit : isDigit c = true :=
      isDigit_of_mem_toDigits (n := n) (by rw [hc]; exact List.mem_cons_self)
    rw [hc, List.cons_append] at hspan ⊢
    rw [wholeDigits?, if_pos hdigit, hspan]
    exact fun h => hne h

/-- A numeral without sign is read back. -/
theorem magnitude?_toDigits {n : Nat} (hn : (Nat.toDigits 10 n).length ≤ Text.maxDigits)
    (isNegative : Bool) {rest : List Char} (hrest : endsNumber rest = true) :
    magnitude? isNegative (Nat.toDigits 10 n ++ rest) =
      some (int (if isNegative then -(n : Int) else n), rest) := by
  have hfraction : fractionDigits rest = ([], rest) := by
    cases rest with
    | nil => rfl
    | cons c rest =>
      rw [fractionDigits]
      intro d ds hd
      rw [hd] at hrest
      cases hrest
  have hexponent : exponent? rest = none := by
    cases rest with
    | nil => rfl
    | cons c rest =>
      simp only [endsNumber, Bool.not_eq_true', Bool.or_eq_false_iff] at hrest
      simp only [exponent?, hrest.1.2, hrest.2, Bool.or_self, Bool.false_eq_true, if_false]
  simp only [magnitude?, wholeDigits?_toDigits hrest, Option.bind_eq_bind, Option.bind_some,
    hfraction, hexponent, if_pos hn, Nat.ofDigitChars_ten_toDigits]

theorem numeral?_showInt {n : Int} (hn : (Nat.toDigits 10 n.natAbs).length ≤ Text.maxDigits)
    {rest : List Char} (hrest : endsNumber rest = true) :
    numeral? ((Text.showInt n).toList ++ rest) = some (int n, rest) := by
  cases n with
  | ofNat m =>
    have hminus : ∀ t, Nat.toDigits 10 m ++ rest ≠ '-' :: t := by
      intro t ht
      obtain ⟨c, cs, hc⟩ := List.exists_cons_of_ne_nil (Nat.toDigits_ne_nil (b := 10) (n := m))
      have hdigit : isDigit c = true :=
        isDigit_of_mem_toDigits (n := m) (by rw [hc]; exact List.mem_cons_self)
      rw [hc, List.cons_append, List.cons.injEq] at ht
      rw [ht.1] at hdigit
      cases hdigit
    rw [Text.showInt, String.toList_ofList, numeral?]
    · exact magnitude?_toDigits hn false hrest
    · exact hminus
  | negSucc m =>
    rw [Text.showInt, String.toList_ofList, List.cons_append, numeral?]
    exact magnitude?_toDigits hn true hrest

theorem numberWord?_showInt (n : Int) (rest : List Char) :
    numberWord? ((Text.showInt n).toList ++ rest) = none := by
  have hwords {c : Char} (hc : isDigit c = true) (s : List Char) :
      numberWord? (c :: s) = none ∧ numberWord? ('-' :: c :: s) = none := by
    have hN : c ≠ 'N' := by rintro rfl; cases hc
    have hI : c ≠ 'I' := by rintro rfl; cases hc
    have hminus : c ≠ '-' := by rintro rfl; cases hc
    simp [numberWord?, numberWords, after?, hN.symm, hI.symm, hminus.symm]
  have hdigits (m : Nat) : ∃ c cs, Nat.toDigits 10 m = c :: cs ∧ isDigit c = true := by
    obtain ⟨c, cs, hc⟩ := List.exists_cons_of_ne_nil (Nat.toDigits_ne_nil (b := 10) (n := m))
    exact ⟨c, cs, hc, isDigit_of_mem_toDigits (n := m) (hc ▸ List.mem_cons_self)⟩
  cases n with
  | ofNat m =>
    obtain ⟨c, cs, hc, hdigit⟩ := hdigits m
    rw [Text.showInt, String.toList_ofList, hc]
    exact (hwords hdigit _).1
  | negSucc m =>
    obtain ⟨c, cs, hc, hdigit⟩ := hdigits (m + 1)
    rw [Text.showInt, String.toList_ofList, hc]
    exact (hwords hdigit _).2

/-- **An integer is read back**, if it ends where the text goes on. -/
theorem number?_showInt {n : Int} (hn : (Nat.toDigits 10 n.natAbs).length ≤ Text.maxDigits)
    (hasWords : Bool) {rest : List Char} (hrest : endsNumber rest = true) :
    number? hasWords ((Text.showInt n).toList ++ rest) = some (int n, rest) := by
  rw [number?, numberWord?_showInt, ite_self]
  exact numeral?_showInt hn hrest

/-! ## Layouts -/

/-- Whether commas and colons stand alone between white space, and strings as they are. -/
structure Layout.Separates (l : Layout) : Prop where
  verbatim : l.asciiOnly = false
  comma : ∃ b, l.comma.toList = ',' :: b ∧ Blank b
  colon : ∃ b, l.colon.toList = ':' :: b ∧ Blank b

theorem reportLayout_separates : reportLayout.Separates where
  verbatim := rfl
  comma := ⟨[], rfl, by simp [Blank]⟩
  colon := ⟨[' '], rfl, by simp [Blank, isSpace]⟩

section
variable {l : Layout}

/-- The elements of an array with what stands between them. -/
def Layout.elementText (l : Layout) (depth : Nat) (xs : List Json) : List Char :=
  (l.comma.toList ++ l.lineBreak depth).intercalate (l.elementChars depth xs)

/-- The members of an object with what stands between them. -/
def Layout.memberText (l : Layout) (depth : Nat) (ms : List (String × Json)) : List Char :=
  (l.comma.toList ++ l.lineBreak depth).intercalate (l.memberChars depth ms)

theorem elementText_singleton (depth : Nat) (x : Json) :
    l.elementText depth [x] = l.chars depth x := by
  simp [Layout.elementText, Layout.elementChars]

theorem elementText_cons_cons (depth : Nat) (x y : Json) (ys : List Json) :
    l.elementText depth (x :: y :: ys) =
      l.chars depth x ++ (l.comma.toList ++ (l.lineBreak depth ++
        l.elementText depth (y :: ys))) := by
  simp [Layout.elementText, Layout.elementChars, List.intercalate_cons_cons]

theorem memberText_singleton (depth : Nat) (k : String) (v : Json) :
    l.memberText depth [(k, v)] =
      writeString l.asciiOnly k ++ (l.colon.toList ++ l.chars depth v) := by
  simp [Layout.memberText, Layout.memberChars]

theorem memberText_cons_cons (depth : Nat) (k : String) (v : Json) (m : String × Json)
    (ms : List (String × Json)) :
    l.memberText depth ((k, v) :: m :: ms) =
      writeString l.asciiOnly k ++ (l.colon.toList ++ (l.chars depth v ++ (l.comma.toList ++
        (l.lineBreak depth ++ l.memberText depth (m :: ms))))) := by
  simp [Layout.memberText, Layout.memberChars, List.intercalate_cons_cons]

theorem chars_arr_cons (depth : Nat) (x : Json) (xs : List Json) :
    l.chars depth (arr (x :: xs)) =
      '[' :: (l.lineBreak (depth + 1) ++ (l.elementText (depth + 1) (x :: xs) ++
        (l.lineBreak depth ++ [']']))) := by
  simp [Layout.chars, Layout.enclosed, Layout.elementText, Layout.elementChars]

theorem chars_obj_cons (depth : Nat) (m : String × Json) (ms : List (String × Json)) :
    l.chars depth (obj (m :: ms)) =
      '\x7b' :: (l.lineBreak (depth + 1) ++ (l.memberText (depth + 1) (m :: ms) ++
        (l.lineBreak depth ++ ['\x7d']))) := by
  obtain ⟨k, v⟩ := m
  simp [Layout.chars, Layout.enclosed, Layout.memberText, Layout.memberChars]

/-- A written value starts with neither white space nor a closing bracket. -/
theorem exists_chars_eq_cons {v : Json} (hv : v.isExact = true) (depth : Nat) :
    ∃ c cs, l.chars depth v = c :: cs ∧ isSpace c = false ∧ c ≠ ']' := by
  cases v with
  | null => exact ⟨_, _, rfl, rfl, by decide⟩
  | bool b => cases b <;> exact ⟨_, _, rfl, rfl, by decide⟩
  | str s => exact ⟨_, _, rfl, rfl, by decide⟩
  | float x => cases hv
  | arr xs =>
    cases xs with
    | nil => exact ⟨_, _, rfl, rfl, by decide⟩
    | cons x xs => exact ⟨_, _, chars_arr_cons depth x xs, rfl, by decide⟩
  | obj ms =>
    cases ms with
    | nil => exact ⟨_, _, rfl, rfl, by decide⟩
    | cons m ms => exact ⟨_, _, chars_obj_cons depth m ms, rfl, by decide⟩
  | int n =>
    obtain ⟨c, cs, hc⟩ := List.exists_cons_of_ne_nil (showInt_ne_nil n)
    have hnumeral : isNumeralChar c = true :=
      isNumeralChar_of_mem_showInt (n := n) (by rw [hc]; exact List.mem_cons_self)
    refine ⟨c, cs, hc, ?_, ?_⟩
    · rw [Bool.eq_false_iff]
      intro hspace
      simp only [isSpace, Bool.or_eq_true, beq_iff_eq] at hspace
      rcases hspace with ((rfl | rfl) | rfl) | rfl <;> cases hnumeral
    · rintro rfl
      cases hnumeral

theorem skipSpace_chars {v : Json} (hv : v.isExact = true) {b : List Char} (hb : Blank b)
    (depth : Nat) (s : List Char) :
    skipSpace (b ++ (l.chars depth v ++ s)) = l.chars depth v ++ s := by
  obtain ⟨c, cs, hc, hspace, -⟩ := exists_chars_eq_cons (l := l) hv depth
  rw [hc, List.cons_append, skipSpace_append hb, skipSpace_cons hspace]

theorem skipSpace_elementText {x : Json} (hx : x.isExact = true) {b : List Char} (hb : Blank b)
    (depth : Nat) (xs : List Json) (s : List Char) :
    skipSpace (b ++ (l.elementText depth (x :: xs) ++ s)) = l.elementText depth (x :: xs) ++ s ∧
      ∀ t, l.elementText depth (x :: xs) ++ s ≠ ']' :: t := by
  obtain ⟨c, cs, hc, hspace, hclose⟩ := exists_chars_eq_cons (l := l) hx depth
  obtain ⟨ds, hds⟩ : ∃ ds, l.elementText depth (x :: xs) = c :: ds := by
    cases xs with
    | nil => exact ⟨cs, by rw [elementText_singleton, hc]⟩
    | cons y ys => exact ⟨_, by rw [elementText_cons_cons, hc, List.cons_append]⟩
  rw [hds, List.cons_append, skipSpace_append hb, skipSpace_cons hspace]
  exact ⟨rfl, fun t ht => hclose (List.cons.inj ht).1⟩

theorem skipSpace_memberText {b : List Char} (hb : Blank b) (depth : Nat) (m : String × Json)
    (ms : List (String × Json)) (s : List Char) :
    skipSpace (b ++ (l.memberText depth (m :: ms) ++ s)) = l.memberText depth (m :: ms) ++ s ∧
      ∀ t, l.memberText depth (m :: ms) ++ s ≠ '\x7d' :: t := by
  obtain ⟨k, v⟩ := m
  obtain ⟨ds, hds⟩ : ∃ ds, l.memberText depth ((k, v) :: ms) = '"' :: ds := by
    cases ms with
    | nil => exact ⟨_, memberText_singleton depth k v⟩
    | cons m ms => exact ⟨_, memberText_cons_cons depth k v m ms⟩
  rw [hds, List.cons_append, skipSpace_append hb, skipSpace_cons rfl]
  exact ⟨rfl, fun t ht => absurd (List.cons.inj ht).1 (by decide)⟩

end

/-! ## Values -/

theorem after?_append (word : String) {cs : List Char} (h : word.toList = cs) (rest : List Char) :
    after? word (cs ++ rest) = some rest := by
  subst h
  rw [after?, if_pos (List.isPrefixOf_iff_prefix.2 (List.prefix_append _ _)),
    ← String.length_toList, List.drop_left]

section
variable {hasWords : Bool} {levels fuel : Nat}

theorem value_numeral {c : Char} (hc : isNumeralChar c = true) (s : List Char) :
    value hasWords levels (fuel + 1) (c :: s) = orMalformed (number? hasWords (c :: s)) := by
  rw [value]
  all_goals
    intro t h
    rw [(List.cons.inj h).1] at hc
    cases hc

/-- After an opening bracket come elements, unless it is closed at once. -/
theorem value_bracket {s : List Char} (hs : ∀ t, skipSpace s ≠ ']' :: t) :
    value hasWords (levels + 1) (fuel + 1) ('[' :: s) =
      (items hasWords levels fuel (skipSpace s)).map fun (xs, rest) => (arr xs, rest) := by
  rw [value]
  split
  · next t ht => exact absurd ht (hs t)
  · rfl

theorem value_brace {s : List Char} (hs : ∀ t, skipSpace s ≠ '\x7d' :: t) :
    value hasWords (levels + 1) (fuel + 1) ('\x7b' :: s) =
      (pairs hasWords levels fuel (skipSpace s)).map fun (ps, rest) => (ofPairs ps, rest) := by
  rw [value]
  split
  · next t ht => exact absurd ht (hs t)
  · rfl

end

/-- The members from one on: more of them after a comma, or the closing brace. -/
def membersAfter (hasWords : Bool) (levels fuel : Nat) (member : String × Json) :
    List Char → Except Refusal (List (String × Json) × List Char)
  | ',' :: rest => (pairs hasWords levels fuel (skipSpace rest)).map fun (ps, rest) =>
      (member :: ps, rest)
  | '\x7d' :: rest => .ok ([member], rest)
  | _ => .error .malformed

section
variable {l : Layout} {hasWords : Bool} (hl : l.Separates)
include hl

theorem pairs_member {v : Json} (hv : v.isExact = true) {depth levels fuel : Nat}
    {s : List Char} (hread : value hasWords levels fuel (l.chars depth v ++ s) = .ok (v, s))
    (k : String) :
    pairs hasWords levels (fuel + 1)
        (writeString l.asciiOnly k ++ (l.colon.toList ++ (l.chars depth v ++ s))) =
      membersAfter hasWords levels fuel (k, v) (skipSpace s) := by
  obtain ⟨b, hcolon, hb⟩ := hl.colon
  obtain ⟨hwrite, hkey⟩ :=
    stringBody?_writeString k (l.colon.toList ++ (l.chars depth v ++ s))
  rw [hl.verbatim, hwrite, pairs, hkey, hcolon]
  simp only [List.cons_append, skipSpace_cons (c := ':') rfl, skipSpace_chars hv hb, hread]
  rfl

mutual

/-- **A written value is read back**, whatever comes after it: its length is fuel enough, and its
height is levels enough. -/
theorem value_chars : ∀ {v : Json}, v.isExact = true → ∀ {depth levels fuel : Nat}
    {rest : List Char}, v.height ≤ levels → (l.chars depth v).length ≤ fuel →
    endsNumber rest = true →
    value hasWords levels fuel (l.chars depth v ++ rest) = .ok (v, rest)
  | v, hv, depth, _, 0, rest, _, hfuel, _ => by
    obtain ⟨c, cs, hc, -⟩ := exists_chars_eq_cons (l := l) hv depth
    rw [hc] at hfuel
    cases hfuel
  | null, _, depth, _, fuel + 1, rest, _, _, _ => by
    change orMalformed ((after? "ull" ("ull".toList ++ rest)).map _) = _
    rw [after?_append "ull" rfl]
    rfl
  | bool true, _, depth, _, fuel + 1, rest, _, _, _ => by
    change orMalformed ((after? "rue" ("rue".toList ++ rest)).map _) = _
    rw [after?_append "rue" rfl]
    rfl
  | bool false, _, depth, _, fuel + 1, rest, _, _, _ => by
    change orMalformed ((after? "alse" ("alse".toList ++ rest)).map _) = _
    rw [after?_append "alse" rfl]
    rfl
  | float _, hv, _, _, _ + 1, _, _, _, _ => by cases hv
  | str s, _, depth, _, fuel + 1, rest, _, _, _ => by
    obtain ⟨hwrite, hread⟩ := stringBody?_writeString s rest
    rw [Layout.chars, hl.verbatim, hwrite, value, hread]
    rfl
  | int n, hv, depth, _, fuel + 1, rest, _, _, hrest => by
    have hn : (Nat.toDigits 10 n.natAbs).length ≤ Text.maxDigits := by
      simpa [isExact] using hv
    obtain ⟨c, cs, hc⟩ := List.exists_cons_of_ne_nil (showInt_ne_nil n)
    have hnumeral : isNumeralChar c = true :=
      isNumeralChar_of_mem_showInt (n := n) (by rw [hc]; exact List.mem_cons_self)
    have hread := number?_showInt hn hasWords hrest
    rw [Layout.chars]
    rw [hc, List.cons_append] at hread ⊢
    rw [value_numeral hnumeral, hread]
    rfl
  | arr xs, hv, depth, 0, fuel + 1, rest, hlevels, _, _ => by simp [height] at hlevels
  | obj ms, hv, depth, 0, fuel + 1, rest, hlevels, _, _ => by simp [height] at hlevels
  | arr [], _, depth, levels + 1, fuel + 1, rest, _, _, _ => by
    simp [Layout.chars, Layout.elementChars, Layout.enclosed, value, skipSpace, isSpace]
  | arr (x :: xs), hv, depth, levels + 1, fuel + 1, rest, hlevels, hfuel, _ => by
    rw [isExact] at hv
    have hx : x.isExact = true := areExact_iff.1 hv x List.mem_cons_self
    rw [chars_arr_cons] at hfuel ⊢
    simp only [List.length_cons, List.length_append, List.length_nil] at hfuel
    simp only [List.cons_append, List.append_assoc, List.nil_append]
    obtain ⟨hskip, hopen⟩ := skipSpace_elementText (l := l) hx (l.blank_lineBreak (depth + 1))
      (depth + 1) xs (l.lineBreak depth ++ ']' :: rest)
    rw [height] at hlevels
    rw [value_bracket (by rwa [hskip]), hskip,
      items_elementChars (by simp) hv (by omega) (by omega) (l.blank_lineBreak depth)]
    rfl
  | obj [], _, depth, levels + 1, fuel + 1, rest, _, _, _ => by
    simp [Layout.chars, Layout.memberChars, Layout.enclosed, value, skipSpace, isSpace]
  | obj (m :: ms), hv, depth, levels + 1, fuel + 1, rest, hlevels, hfuel, _ => by
    rw [isExact, Bool.and_eq_true, decide_eq_true_eq] at hv
    rw [chars_obj_cons] at hfuel ⊢
    simp only [List.length_cons, List.length_append, List.length_nil] at hfuel
    simp only [List.cons_append, List.append_assoc, List.nil_append]
    obtain ⟨hskip, hopen⟩ := skipSpace_memberText (l := l) (l.blank_lineBreak (depth + 1))
      (depth + 1) m ms (l.lineBreak depth ++ '\x7d' :: rest)
    rw [height] at hlevels
    rw [value_brace (by rwa [hskip]), hskip,
      pairs_memberChars (by simp) hv.2 (by omega) (by omega) (l.blank_lineBreak depth)]
    simp only [Except.map, ofPairs_eq_obj hv.1]

/-- The elements of an array are read back up to its closing bracket. -/
theorem items_elementChars : ∀ {xs : List Json}, xs ≠ [] → areExact xs = true →
    ∀ {depth levels fuel : Nat} {b rest : List Char}, tallest xs ≤ levels →
    (l.elementText depth xs).length < fuel → Blank b →
    items hasWords levels fuel (l.elementText depth xs ++ (b ++ ']' :: rest)) = .ok (xs, rest)
  | [], hne, _, _, _, _, _, _, _, _, _ => absurd rfl hne
  | xs, _, _, _, _, 0, _, _, _, hfuel, _ => absurd hfuel (Nat.not_lt_zero _)
  | [x], _, hxs, depth, levels, fuel + 1, b, rest, hlevels, hfuel, hb => by
    have hx : x.isExact = true := areExact_iff.1 hxs x List.mem_cons_self
    rw [elementText_singleton] at hfuel ⊢
    simp only [tallest] at hlevels
    rw [items, value_chars hx (by omega) (Nat.le_of_lt_succ hfuel) (endsNumber_append hb rfl)]
    simp only [skipSpace_append hb, skipSpace_cons (c := ']') rfl]
  | x :: y :: ys, _, hxs, depth, levels, fuel + 1, b, rest, hlevels, hfuel, hb => by
    have hx : x.isExact = true := areExact_iff.1 hxs x List.mem_cons_self
    have hy : y.isExact = true :=
      areExact_iff.1 hxs y (List.mem_cons_of_mem x List.mem_cons_self)
    have hys : areExact (y :: ys) = true :=
      areExact_iff.2 fun z hz => areExact_iff.1 hxs z (List.mem_cons_of_mem x hz)
    obtain ⟨c, hcomma, hc⟩ := hl.comma
    rw [elementText_cons_cons, hcomma] at hfuel ⊢
    simp only [List.length_cons, List.length_append] at hfuel
    simp only [List.cons_append, List.append_assoc]
    rw [tallest] at hlevels
    rw [items, value_chars hx (by omega) (by omega) rfl]
    simp only [skipSpace_cons (c := ',') rfl, skipSpace_append hc]
    rw [(skipSpace_elementText hy (l.blank_lineBreak depth) depth ys _).1,
      items_elementChars (by simp) hys (by omega) (by omega) hb]
    rfl

/-- The members of an object are read back up to its closing brace. -/
theorem pairs_memberChars : ∀ {ms : List (String × Json)}, ms ≠ [] → areExactMembers ms = true →
    ∀ {depth levels fuel : Nat} {b rest : List Char}, tallestMember ms ≤ levels →
    (l.memberText depth ms).length < fuel → Blank b →
    pairs hasWords levels fuel (l.memberText depth ms ++ (b ++ '\x7d' :: rest)) = .ok (ms, rest)
  | [], hne, _, _, _, _, _, _, _, _, _ => absurd rfl hne
  | ms, _, _, _, _, 0, _, _, _, hfuel, _ => absurd hfuel (Nat.not_lt_zero _)
  | [(k, v)], _, hms, depth, levels, fuel + 1, b, rest, hlevels, hfuel, hb => by
    have hv : v.isExact = true := areExactMembers_iff.1 hms (k, v) List.mem_cons_self
    rw [memberText_singleton] at hfuel ⊢
    simp only [List.length_append] at hfuel
    simp only [List.append_assoc]
    simp only [tallestMember] at hlevels
    rw [pairs_member hl hv (value_chars hv (by omega) (by omega) (endsNumber_append hb rfl)),
      skipSpace_append hb, skipSpace_cons rfl, membersAfter]
  | (k, v) :: m :: ms, _, hms, depth, levels, fuel + 1, b, rest, hlevels, hfuel, hb => by
    have hv : v.isExact = true := areExactMembers_iff.1 hms (k, v) List.mem_cons_self
    have hrest : areExactMembers (m :: ms) = true :=
      areExactMembers_iff.2 fun n hn =>
        areExactMembers_iff.1 hms n (List.mem_cons_of_mem (k, v) hn)
    obtain ⟨c, hcomma, hc⟩ := hl.comma
    rw [memberText_cons_cons, hcomma] at hfuel ⊢
    simp only [List.length_cons, List.length_append] at hfuel
    simp only [List.cons_append, List.append_assoc]
    rw [tallestMember] at hlevels
    rw [pairs_member hl hv (value_chars hv (by omega) (by omega) rfl), skipSpace_cons rfl,
      membersAfter, skipSpace_append hc,
      (skipSpace_memberText (l.blank_lineBreak depth) depth m ms _).1,
      pairs_memberChars (by simp) hrest (by omega) (by omega) hb]
    rfl

end

/-- **A written text is read back** by a reader that follows its levels, if the value in it is
exact. -/
theorem read_write {v : Json} (hv : v.isExact = true) (hasWords : Bool) {levels : Nat}
    (hlevels : v.height ≤ levels) : read hasWords levels (write l v) = .ok v := by
  have hread : value hasWords levels (2 * (l.chars 0 v).length + 1) (l.chars 0 v ++ []) =
      .ok (v, []) := value_chars hl hv hlevels (by omega) rfl
  have hskip := skipSpace_chars (l := l) hv (b := []) (by simp [Blank]) 0 []
  rw [List.append_nil] at hread hskip
  simp only [read, write, String.toList_ofList]
  rw [List.nil_append] at hskip
  rw [hskip, hread]
  rfl

/-- So does the program, up to the levels that it follows. -/
theorem parse_write {v : Json} (hv : v.isExact = true) (hlevels : v.height ≤ maxLevels) :
    parse (write l v) = .ok v :=
  read_write hl hv true hlevels

end

end ContractAudit.Json
