/-
  Reading source map tokens.

  * `Entry.integers?` are the integers that the first three fields of a token write; `parse_eq`:
    an entry is read from them alone.
  * `Entry.tokenOf` is the plain token of three integers.  They are its fields, whatever further
    fields and entries come after it (`exists_fields_append`, `fields_append_semicolon`);
  * `parse_tokenOf`: so the token of an entry reads as the entry, later entries do not count, and
    a token that is refused lacks an integer or has a negative one.
-/
import ContractAudit.Proofs.Answers
import ContractAudit.Proofs.Text.Blank
import ContractAudit.Proofs.Text.Numeral
import ContractAudit.SourceMap.Entry

namespace ContractAudit

/-- The same error about another token. -/
def LocationError.inToken (token : String) : LocationError → LocationError
  | malformed _ => malformed token
  | invalid _ offset length => invalid token offset length

namespace Entry

/-! ## Integers -/

/-- The integers that the first three fields of a token write. -/
def integers? (token : String) : Option (Int × Int × Int) :=
  match fields token.toList with
  | offset :: length :: file :: _ => do
    pure (← Text.readInt? offset, ← Text.readInt? length, ← Text.readInt? file)
  | _ => none

/-- **An entry is read from the integers of its token alone.** -/
theorem parse_eq (token : String) :
    parse token = match integers? token with
      | none => .error (.malformed token)
      | some (offset, length, file) =>
        if offset < 0 ∨ length < 0 then .error (.invalid token offset length)
        else .ok { span := ⟨offset.toNat, length.toNat⟩, file } := by
  rw [parse, integers?]
  rcases fields token.toList with _ | ⟨offset, _ | ⟨length, _ | ⟨file, more⟩⟩⟩
  · rfl
  · rfl
  · rfl
  · dsimp only
    cases Text.readInt? offset <;> cases Text.readInt? length <;> cases Text.readInt? file <;> rfl

theorem fitsNumeral_of_integers? {token : String} {offset length file : Int}
    (h : integers? token = some (offset, length, file)) :
    Text.fitsNumeral offset = true ∧ Text.fitsNumeral length = true := by
  rw [integers?] at h
  split at h
  · obtain ⟨o, ho, h⟩ := Option.bind_eq_some_iff.1 h
    obtain ⟨l, hl, h⟩ := Option.bind_eq_some_iff.1 h
    obtain ⟨f, -, h⟩ := Option.bind_eq_some_iff.1 h
    cases h
    exact ⟨Text.fitsNumeral_of_readInt? ho, Text.fitsNumeral_of_readInt? hl⟩
  · cases h

theorem offset_lt_of_parse {token : String} {entry : Entry} (h : parse token = .ok entry) :
    entry.span.offset < 10 ^ Text.maxDigits := by
  rw [parse_eq] at h
  split at h
  · cases h
  · next hintegers =>
    split at h
    · cases h
    · have hshort := Text.fitsNumeral_iff.1 (fitsNumeral_of_integers? hintegers).1
      cases h
      exact Nat.lt_of_le_of_lt (by dsimp only; omega) hshort

/-! ## Fields -/

theorem fields_append_semicolon (t s : List Char) : fields (t ++ ';' :: s) = fields t := by
  have hentry : (t ++ ';' :: s).takeWhile (· != ';') = t.takeWhile (· != ';') := by
    induction t with
    | nil => rfl
    | cons c t ih => rw [List.cons_append, List.takeWhile_cons, ih, List.takeWhile_cons]
  rw [fields, hentry, fields]

/-- The plain token of three integers. -/
def tokenOf (offset length file : Int) : String :=
  Text.showInt offset ++ ":" ++ Text.showInt length ++ ":" ++ Text.showInt file

/-- What may come after a plain token: nothing, further fields or further entries. -/
def Continues (rest : String) : Prop :=
  rest = "" ∨ ∃ more, rest = ":" ++ more ∨ rest = ";" ++ more

/-- An entry that begins with numerals has no blanks to drop but at the end of what comes after
them. -/
theorem exists_trim_append {a b c : List Char} (ha : ∀ x ∈ a, Json.isNumeralChar x = true)
    (hc : ∀ x ∈ c, Json.isNumeralChar x = true) (hane : a ≠ []) (hcne : c ≠ [])
    {tail : List Char} (htail : tail = [] ∨ ∃ more, tail = ':' :: more) :
    ∃ tail', (tail' = [] ∨ ∃ more, tail' = ':' :: more) ∧
      Text.trim (a ++ ':' :: (b ++ ':' :: (c ++ tail))) =
        a ++ ':' :: (b ++ ':' :: (c ++ tail')) := by
  obtain ⟨x, a, rfl⟩ := List.exists_cons_of_ne_nil hane
  rw [Text.trim, List.cons_append, Text.trimLeft_cons
    (Text.isBlank_eq_false (ha x List.mem_cons_self)), ← List.cons_append]
  rcases htail with rfl | ⟨more, rfl⟩
  · obtain ⟨c, y, rfl⟩ := (List.eq_nil_or_concat c).resolve_left hcne
    refine ⟨[], .inl rfl, ?_⟩
    have hy := Text.isBlank_eq_false (hc y (by simp))
    have htrim := Text.trimRight_append_cons hy (x :: a ++ ':' :: (b ++ ':' :: c)) []
    simpa [Text.trimRight] using htrim
  · refine ⟨':' :: Text.trimRight more, .inr ⟨_, rfl⟩, ?_⟩
    have htrim := Text.trimRight_append_cons (c := ':') rfl (x :: a ++ ':' :: (b ++ ':' :: c)) more
    simpa using htrim

section
variable {a b c : List Char} (ha : ∀ x ∈ a, Json.isNumeralChar x = true)
  (hb : ∀ x ∈ b, Json.isNumeralChar x = true) (hc : ∀ x ∈ c, Json.isNumeralChar x = true)
include ha hb hc

/-- A plain token is an entry, whose end is what comes after it in the same entry. -/
theorem exists_entry_append {rest : List Char}
    (hrest : rest = [] ∨ ∃ more, rest = ':' :: more ∨ rest = ';' :: more) :
    ∃ tail, (tail = [] ∨ ∃ more, tail = ':' :: more) ∧
      (a ++ ':' :: (b ++ ':' :: (c ++ rest))).takeWhile (· != ';') =
        a ++ ':' :: (b ++ ':' :: (c ++ tail)) := by
  have hentry : ∀ {x}, Json.isNumeralChar x = true → (x != ';') = true := by
    rintro x hx
    rw [bne_iff_ne]
    rintro rfl
    cases hx
  refine ⟨rest.takeWhile (· != ';'), ?_, ?_⟩
  · rcases hrest with rfl | ⟨more, rfl | rfl⟩
    · exact .inl rfl
    · exact .inr ⟨more.takeWhile (· != ';'), List.takeWhile_cons_of_pos rfl⟩
    · exact .inl (List.takeWhile_cons_of_neg (by decide))
  · rw [List.takeWhile_append_of_pos fun x hx => hentry (ha x hx),
      List.takeWhile_cons_of_pos rfl, List.takeWhile_append_of_pos fun x hx => hentry (hb x hx),
      List.takeWhile_cons_of_pos rfl, List.takeWhile_append_of_pos fun x hx => hentry (hc x hx)]

/-- **The integers of a plain token are its fields**, whatever comes after it. -/
theorem exists_fields_append (hane : a ≠ []) (hcne : c ≠ []) {rest : List Char}
    (hrest : rest = [] ∨ ∃ more, rest = ':' :: more ∨ rest = ';' :: more) :
    ∃ more, fields (a ++ ':' :: (b ++ ':' :: (c ++ rest))) = a :: b :: c :: more := by
  obtain ⟨tail, htail, hentry⟩ := exists_entry_append ha hb hc hrest
  obtain ⟨tail', htail', htrim⟩ := exists_trim_append ha hc hane hcne htail
  have hcolon : ∀ {s : List Char}, (∀ x ∈ s, Json.isNumeralChar x = true) → ':' ∉ s :=
    fun hs hmem => absurd (hs ':' hmem) (by decide)
  rw [fields, hentry, htrim, List.splitOn_append_cons_self, List.splitOn_append_cons_self,
    List.splitOn_eq_singleton (hcolon ha), List.splitOn_eq_singleton (hcolon hb)]
  rcases htail' with rfl | ⟨more, rfl⟩
  · rw [List.append_nil, List.splitOn_eq_singleton (hcolon hc)]
    exact ⟨[], rfl⟩
  · rw [List.splitOn_append_cons_self, List.splitOn_eq_singleton (hcolon hc)]
    exact ⟨more.splitOn ':', rfl⟩

end

theorem integers?_tokenOf {offset length file : Int} {rest : String}
    (ho : Text.fitsNumeral offset = true) (hl : Text.fitsNumeral length = true)
    (hf : Text.fitsNumeral file = true) (hrest : Continues rest) :
    integers? (tokenOf offset length file ++ rest) = some (offset, length, file) := by
  have hchars : (tokenOf offset length file ++ rest).toList =
      (Text.showInt offset).toList ++ ':' :: ((Text.showInt length).toList ++
        ':' :: ((Text.showInt file).toList ++ rest.toList)) := by
    simp [tokenOf]
  have htail : rest.toList = [] ∨
      ∃ more, rest.toList = ':' :: more ∨ rest.toList = ';' :: more := by
    rcases hrest with rfl | ⟨more, rfl | rfl⟩
    · exact .inl rfl
    · exact .inr ⟨more.toList, .inl (by simp)⟩
    · exact .inr ⟨more.toList, .inr (by simp)⟩
  obtain ⟨more, hfields⟩ := exists_fields_append
    (fun x => Json.isNumeralChar_of_mem_showInt) (fun x => Json.isNumeralChar_of_mem_showInt)
    (fun x => Json.isNumeralChar_of_mem_showInt) (Json.showInt_ne_nil offset)
    (Json.showInt_ne_nil file) htail
  rw [integers?, hchars, hfields]
  simp only [Text.readInt?_showInt ho, Text.readInt?_showInt hl, Text.readInt?_showInt hf]
  rfl

theorem integers?_append_semicolon (t s : String) :
    integers? (t ++ ";" ++ s) = integers? t := by
  have hchars : (t ++ ";" ++ s).toList = t.toList ++ ';' :: s.toList := by simp
  rw [integers?, hchars, fields_append_semicolon, integers?]

/-- **Reading a token inverts writing it, and looks at nothing else.** The token of three integers
is read back as their entry, or refused with the integers if its range is none, whatever further
fields and entries come after it.  With a further entry, any token is read as before, or refused in
the same way.  And what is refused lacks an integer, or its range has a negative one whose numeral
is within the limit, so that it can be shown; else it has the integers of the entry. -/
theorem parse_tokenOf :
    (∀ (offset length file : Int) (rest : String), Text.fitsNumeral offset = true →
      Text.fitsNumeral length = true → Text.fitsNumeral file = true → Continues rest →
      parse (tokenOf offset length file ++ rest) =
        if 0 ≤ offset ∧ 0 ≤ length then .ok { span := ⟨offset.toNat, length.toNat⟩, file }
        else .error (.invalid (tokenOf offset length file ++ rest) offset length)) ∧
    (∀ t s : String, parse (t ++ ";" ++ s) = (parse t).mapError (.inToken (t ++ ";" ++ s))) ∧
    ∀ token : String,
      (∃ e, parse token = .ok e ∧
        integers? token = some ((e.span.offset : Int), (e.span.length : Int), e.file)) ∨
      (parse token = .error (.malformed token) ∧ integers? token = none) ∨
      ∃ offset length file, parse token = .error (.invalid token offset length) ∧
        integers? token = some (offset, length, file) ∧ (offset < 0 ∨ length < 0) ∧
        Text.fitsNumeral offset = true ∧ Text.fitsNumeral length = true := by
  refine ⟨fun offset length file rest ho hl hf hrest => ?_, fun t s => ?_, fun token => ?_⟩
  · have hrange : ¬ (offset < 0 ∨ length < 0) ↔ 0 ≤ offset ∧ 0 ≤ length := by omega
    rw [parse_eq, integers?_tokenOf ho hl hf hrest]
    simp only [← hrange, ite_not]
  · rw [parse_eq, parse_eq, integers?_append_semicolon]
    rcases integers? t with _ | ⟨offset, length, file⟩
    · rfl
    · by_cases hneg : offset < 0 ∨ length < 0 <;>
        simp [hneg, Except.mapError, LocationError.inToken]
  · rw [parse_eq]
    cases h : integers? token with
    | none => exact .inr (.inl ⟨rfl, rfl⟩)
    | some integers =>
      obtain ⟨offset, length, file⟩ := integers
      by_cases hneg : offset < 0 ∨ length < 0
      · exact .inr (.inr ⟨offset, length, file, if_pos hneg, rfl, hneg,
          fitsNumeral_of_integers? h⟩)
      · refine .inl ⟨_, if_neg hneg, ?_⟩
        have ho : (offset.toNat : Int) = offset := by omega
        have hl : (length.toNat : Int) = length := by omega
        simp only [ho, hl]

/-- Blanks, further fields and a further entry come after two tokens, one with a negative length. -/
theorem parse_token_with_tail :
    (Text.fitsNumeral 24 = true ∧ Text.fitsNumeral 8 = true ∧ Text.fitsNumeral (-8) = true ∧
      Text.fitsNumeral (-1) = true ∧ Continues ": i \t;9:9") ∧
    parse "24:8:-1: i \t;9:9" = .ok { span := ⟨24, 8⟩, file := -1 } ∧
    parse "24:-8:-1: i \t;9:9" = .error (.invalid "24:-8:-1: i \t;9:9" 24 (-8)) := by
  have hrest : Continues ": i \t;9:9" := .inr ⟨" i \t;9:9", .inl (by decide)⟩
  have htoken : tokenOf 24 8 (-1) ++ ": i \t;9:9" = "24:8:-1: i \t;9:9" := by decide +kernel
  have hneg : tokenOf 24 (-8) (-1) ++ ": i \t;9:9" = "24:-8:-1: i \t;9:9" := by decide +kernel
  have h := parse_tokenOf.1 24 8 (-1) _ (by decide) (by decide) (by decide) hrest
  have h' := parse_tokenOf.1 24 (-8) (-1) _ (by decide) (by decide) (by decide) hrest
  rw [htoken] at h
  rw [hneg] at h'
  exact ⟨⟨by decide, by decide, by decide, by decide, hrest⟩, h, h'⟩

end Entry

end ContractAudit
