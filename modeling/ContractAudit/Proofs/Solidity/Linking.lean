/-
  Linking keeps code in place.

  * `afterPlaceholder?_eq_some_iff`: a placeholder is a word between its marks.  Only an underscore
    can begin one, so that other text is passed over (`linkedChars_append`) and every placeholder is
    met at its start (`linkedChars_placeholder`).
  * A `Fragment` is what the compiler writes bytecode of: a run of digits, or the placeholder of a
    library.
  * `linked_ofFragments`: the zero address takes the place of each placeholder, all else stays where
    it is, and the length of the bytecode settles whether it is accepted.
-/
import Mathlib.Data.List.TakeWhile
import ContractAudit.Proofs.Solidity.Selection

namespace ContractAudit.Solidity

/-! ## Placeholders -/

/-- The placeholder with a word between its marks. -/
def placeholderOf (word : List Char) : List Char :=
  placeholderOpening ++ word ++ placeholderClosing

section
variable {s rest word run : List Char} {c : Char}

/-- **A placeholder is a word between its marks.** -/
theorem afterPlaceholder?_eq_some_iff :
    afterPlaceholder? s = some rest ↔
      ∃ word, word ≠ [] ∧ (∀ c ∈ word, Text.isWord c = true) ∧ s = placeholderOf word ++ rest := by
  have hparts (word : List Char) : placeholderOf word ++ rest =
      placeholderOpening ++ (word ++ (placeholderClosing ++ rest)) := by simp [placeholderOf]
  constructor
  · intro h
    rw [afterPlaceholder?] at h
    split at h
    · next hopening =>
      obtain ⟨body, rfl⟩ := List.isPrefixOf_iff_prefix.1 hopening
      have hbody : (placeholderOpening ++ body).drop 3 = body := rfl
      simp only [hbody] at h
      split at h
      · next hclosing =>
        rw [Bool.and_eq_true, Bool.not_eq_true', List.isEmpty_eq_false_iff] at hclosing
        obtain ⟨hne, hclosing⟩ := hclosing
        obtain ⟨after, hafter⟩ := List.isPrefixOf_iff_prefix.1 hclosing
        obtain rfl : after = rest := by
          rw [← hafter] at h
          exact Option.some.inj h
        refine ⟨body.takeWhile Text.isWord, hne, fun c hc => List.mem_takeWhile_imp hc, ?_⟩
        rw [hparts, hafter, List.takeWhile_append_dropWhile]
      · cases h
    · cases h
  · rintro ⟨word, hne, hword, rfl⟩
    have hmark : Text.isWord '$' = false := by decide +kernel
    have htake : (word ++ (placeholderClosing ++ rest)).takeWhile Text.isWord = word := by
      rw [List.takeWhile_append_of_pos hword]
      simp [placeholderClosing, hmark]
    have hdrop : (word ++ (placeholderClosing ++ rest)).dropWhile Text.isWord =
        placeholderClosing ++ rest := by
      rw [List.dropWhile_append_of_pos hword]
      simp [placeholderClosing, hmark]
    have hbody : (placeholderOpening ++ (word ++ (placeholderClosing ++ rest))).drop 3 =
        word ++ (placeholderClosing ++ rest) := rfl
    have hclosing : (!word.isEmpty && placeholderClosing.isPrefixOf (placeholderClosing ++ rest)) =
        true := by simp [hne]
    rw [hparts, afterPlaceholder?,
      if_pos (List.isPrefixOf_iff_prefix.2 (List.prefix_append _ _)), hbody, htake, hdrop]
    exact if_pos hclosing

theorem linkedChars_placeholder (hne : word ≠ []) (hword : ∀ c ∈ word, Text.isWord c = true) :
    linkedChars (placeholderOf word ++ rest) = zeroAddress ++ linkedChars rest := by
  have hafter : afterPlaceholder? (placeholderOf word ++ rest) = some rest :=
    afterPlaceholder?_eq_some_iff.2 ⟨word, hne, hword, rfl⟩
  rw [linkedChars]
  split
  · next found hfound =>
    obtain rfl : rest = found := Option.some.inj (hafter.symm.trans hfound)
    rfl
  · next hnone => cases hafter.symm.trans hnone

/-- Only an underscore begins a placeholder. -/
theorem linkedChars_cons (hc : c ≠ '_') : linkedChars (c :: s) = c :: linkedChars s := by
  rw [linkedChars]
  split
  · next hfound =>
    obtain ⟨_, _, _, heq⟩ := afterPlaceholder?_eq_some_iff.1 hfound
    exact absurd (List.cons.inj heq).1 hc
  · rfl

theorem linkedChars_append (hrun : '_' ∉ run) : linkedChars (run ++ s) = run ++ linkedChars s := by
  induction run with
  | nil => rfl
  | cons c run ih =>
    rw [List.mem_cons, not_or] at hrun
    rw [List.cons_append, linkedChars_cons (Ne.symm hrun.1), ih hrun.2, List.cons_append]

theorem linkedChars_of_notMem (hs : '_' ∉ s) : linkedChars s = s := by
  have hnil : linkedChars [] = [] := by
    rw [linkedChars]
    rfl
  rw [← List.append_nil s, linkedChars_append hs, hnil]

end

/-! ## Fragments of bytecode -/

/-- Hexadecimal digits, as many as there are. -/
def AreHex (s : List Char) : Prop :=
  ∀ c ∈ s, (Text.hexDigit? c).isSome

instance : DecidablePred AreHex :=
  fun s => decidable_of_iff (s.all fun c => (Text.hexDigit? c).isSome) List.all_eq_true

/-- What the compiler writes bytecode of: a run of digits, or the placeholder of a library. -/
inductive Fragment where
  | run (digits : List Char) (areHex : AreHex digits)
  | placeholder (digits : List Char) (areHex : AreHex digits) (length_eq : digits.length = 34)

namespace Fragment

/-- The text of a fragment. -/
def text : Fragment → List Char
  | run digits _ => digits
  | placeholder digits _ _ => placeholderOf digits

/-- The fragment when it is linked. -/
def linked : Fragment → List Char
  | run digits _ => digits
  | placeholder .. => zeroAddress

end Fragment

/-- The bytecode of some fragments. -/
def codeOf (fragments : List Fragment) : String :=
  String.ofList (fragments.flatMap Fragment.text)

section
variable {c : Char} {s t : List Char}

theorem isWord_of_hexDigit (h : (Text.hexDigit? c).isSome) : Text.isWord c = true ∧ c ≠ '_' := by
  have hall : ∀ n < 128, (Text.hexDigit? (Char.ofNat n)).isSome →
      Text.isWord (Char.ofNat n) = true ∧ Char.ofNat n ≠ '_' := by decide +kernel
  have hsmall : c.toNat < 128 := by
    have hle {d : Char} (hd : c ≤ d) (hsmall : d.toNat < 128) : c.toNat < 128 :=
      Nat.lt_of_le_of_lt hd hsmall
    simp only [Text.hexDigit?, Bool.and_eq_true, decide_eq_true_eq] at h
    split at h
    · next hdigit => exact hle hdigit.2 (by decide)
    split at h
    · next hlower => exact hle hlower.2 (by decide)
    split at h
    · next hupper => exact hle hupper.2 (by decide)
    · cases h
  have hc := hall c.toNat hsmall
  rw [Char.ofNat_toNat] at hc
  exact hc h

namespace AreHex

theorem append (hs : AreHex s) (ht : AreHex t) : AreHex (s ++ t) :=
  List.forall_mem_append.2 ⟨hs, ht⟩

theorem zeroAddress : AreHex Solidity.zeroAddress := by
  intro c hc
  rw [List.eq_of_mem_replicate hc]
  rfl

theorem isWord (h : AreHex s) : ∀ c ∈ s, Text.isWord c = true :=
  fun c hc => (isWord_of_hexDigit (h c hc)).1

theorem underscore_notMem (h : AreHex s) : '_' ∉ s :=
  fun hmem => (isWord_of_hexDigit (h _ hmem)).2 rfl

theorem linkedChars_eq (h : AreHex s) : linkedChars s = s :=
  linkedChars_of_notMem h.underscore_notMem

/-- **The length of plain digits settles whether they are bytecode.** -/
theorem isBytecode_iff (h : AreHex s) :
    isBytecode s = true ↔ s.length % 2 = 0 ∧ 0 < s.length := by
  rw [Solidity.isBytecode_iff, BytecodeForm]
  constructor
  · rintro ⟨lead, digits, tail, rfl, hlead, hdigits, hne, htail⟩
    obtain rfl : lead = [] := by
      refine hlead.resolve_right ?_
      rintro rfl
      exact absurd (h 'x' (by simp)) (by decide)
    obtain rfl : tail = [] := by
      refine htail.resolve_right ?_
      rintro rfl
      exact absurd (h '\n' (by simp)) (by decide)
    rw [List.nil_append, List.append_nil]
    exact ⟨hdigits.even, List.length_pos_iff.2 hne⟩
  · rintro ⟨heven, hpos⟩
    exact ⟨[], s, [], by simp, .inl rfl, ⟨heven, h⟩, List.length_pos_iff.1 hpos, .inl rfl⟩

end AreHex

end

namespace Fragment

theorem length_linked (f : Fragment) : f.linked.length = f.text.length := by
  cases f with
  | run => rfl
  | placeholder digits _ hlength =>
    simp [linked, text, placeholderOf, zeroAddress, placeholderOpening, placeholderClosing, hlength]

theorem areHex_linked (f : Fragment) : AreHex f.linked := by
  cases f with
  | run _ h => exact h
  | placeholder => exact .zeroAddress

theorem linkedChars_text (f : Fragment) (rest : List Char) :
    linkedChars (f.text ++ rest) = f.linked ++ linkedChars rest := by
  cases f with
  | run digits h => exact linkedChars_append h.underscore_notMem
  | placeholder digits h hlength =>
    exact linkedChars_placeholder (List.length_pos_iff.1 (by omega)) h.isWord

end Fragment

section
variable (fragments : List Fragment)

/-- **Fragments are linked one by one.** -/
theorem linkedChars_flatMap :
    linkedChars (fragments.flatMap Fragment.text) = fragments.flatMap Fragment.linked := by
  induction fragments with
  | nil => exact linkedChars_of_notMem List.not_mem_nil
  | cons f fragments ih => rw [List.flatMap_cons, f.linkedChars_text, ih, List.flatMap_cons]

theorem toList_linked_codeOf :
    (linked (codeOf fragments)).toList = fragments.flatMap Fragment.linked := by
  rw [linked, codeOf, String.toList_ofList, String.toList_ofList, linkedChars_flatMap]

theorem areHex_flatMap : AreHex (fragments.flatMap Fragment.linked) := by
  intro c hc
  obtain ⟨f, -, hf⟩ := List.mem_flatMap.1 hc
  exact f.areHex_linked c hf

theorem length_linked_codeOf : (linked (codeOf fragments)).length = (codeOf fragments).length := by
  rw [← String.length_toList, toList_linked_codeOf, codeOf, String.length_ofList]
  simp only [List.length_flatMap, Fragment.length_linked]

end

section
variable {output contract : Json} {source name code : String} {contracts : Json.Members}

/-- A contract that is taken by its name fails to compile unless its linked bytecode is accepted. -/
theorem selectContract_ne_failWith_iff (hcontracts : Declares output source contracts)
    (hlookup : Keyed.lookup? name contracts = some contract) (hcode : HasCode contract code) :
    (∀ e, selectContract output (.str source) (.str name) ≠ failWith e) ↔
      isBytecode (linkedChars code.toList) = true := by
  have hselect : (Json.obj contracts).select (.str name) = .ok contract := by
    rw [Json.select, Json.memberAt?, hlookup]
    rfl
  have hempty : code = "" → isBytecode (linkedChars code.toList) ≠ true := by
    rintro rfl
    rw [String.toList_empty, linkedChars_of_notMem List.not_mem_nil]
    decide
  rw [selectContract_eq hcontracts, takenOf_str (by rw [hlookup]; rfl)]
  simp only [ne_eq, contractNamed_eq_failWith_iff hselect hcode, ← isBytecode_iff]
  constructor
  · intro hnone
    by_contra hform
    exact hnone .malformedBytecode (.inr ⟨rfl, fun hc => hnone .noBytecode (.inl ⟨rfl, hc⟩), hform⟩)
  · rintro hform e (⟨-, hc⟩ | ⟨-, -, hnot⟩)
    · exact hempty hc hform
    · exact hnot hform

end

theorem getElem?_append_append {α : Type} {l m r : List α} {i : Nat} (h : i < m.length) :
    (l ++ (m ++ r))[l.length + i]? = m[i]? := by
  rw [List.getElem?_append_right (Nat.le_add_right _ _), Nat.add_sub_cancel_left,
    List.getElem?_append_left h]

/-- **Linking keeps code in place.** Bytecode that is written of runs of digits and of placeholders,
in any order and number, is the same with the zero address for each placeholder. So it is as long,
the digits of every run are at the positions at which they were, no mark of a placeholder is left,
and linking it again changes nothing. It is accepted iff its length is even and positive, and this
alone settles whether a contract with this bytecode, taken by its name, fails to compile. -/
theorem linked_ofFragments (fragments : List Fragment) :
    linked (codeOf fragments) = String.ofList (fragments.flatMap Fragment.linked) ∧
      (linked (codeOf fragments)).length = (codeOf fragments).length ∧
      (∀ before digits areHex after, fragments = before ++ .run digits areHex :: after →
        ∀ i < digits.length,
          (codeOf fragments).toList[(codeOf before).length + i]? = digits[i]? ∧
            (linked (codeOf fragments)).toList[(codeOf before).length + i]? = digits[i]?) ∧
      '$' ∉ (linked (codeOf fragments)).toList ∧ '_' ∉ (linked (codeOf fragments)).toList ∧
      linked (linked (codeOf fragments)) = linked (codeOf fragments) ∧
      (isBytecode (linked (codeOf fragments)).toList = true ↔
        (codeOf fragments).length % 2 = 0 ∧ 0 < (codeOf fragments).length) ∧
      ∀ output source contracts name contract, Declares output source contracts →
        Keyed.lookup? name contracts = some contract → HasCode contract (codeOf fragments) →
        ((∀ e, selectContract output (.str source) (.str name) ≠ failWith e) ↔
          (codeOf fragments).length % 2 = 0 ∧ 0 < (codeOf fragments).length) := by
  have hchars := toList_linked_codeOf fragments
  have hhex : AreHex (linked (codeOf fragments)).toList := hchars ▸ areHex_flatMap fragments
  have hcheck : isBytecode (linked (codeOf fragments)).toList = true ↔
      (codeOf fragments).length % 2 = 0 ∧ 0 < (codeOf fragments).length := by
    rw [hhex.isBytecode_iff, String.length_toList, length_linked_codeOf]
  refine ⟨?_, length_linked_codeOf fragments, ?_, ?_, hhex.underscore_notMem, ?_, hcheck, ?_⟩
  · rw [← hchars, String.ofList_toList]
  · rintro before digits areHex after rfl i hi
    constructor
    · rw [codeOf, codeOf, String.toList_ofList, String.length_ofList, List.flatMap_append,
        List.flatMap_cons]
      exact getElem?_append_append hi
    · rw [hchars, ← length_linked_codeOf before, ← String.length_toList, toList_linked_codeOf,
        List.flatMap_append, List.flatMap_cons]
      exact getElem?_append_append hi
  · intro hmark
    exact absurd (hhex '$' hmark) (by decide)
  · rw [linked, hhex.linkedChars_eq, String.ofList_toList]
  · intro output source contracts name contract hcontracts hlookup hcode
    rw [selectContract_ne_failWith_iff hcontracts hlookup hcode, ← hcheck, linked,
      String.toList_ofList]

/-- Two placeholders side by side, between digits of both cases. -/
theorem adjacent_placeholders_linked :
    let fragments : List Fragment :=
      [.run "73".toList (by decide), .placeholder (List.replicate 34 'a') (by decide) rfl,
        .placeholder (List.replicate 34 '0') (by decide) rfl, .run "60Fe".toList (by decide)]
    let contract : Json :=
      .obj [("evm", .obj [("bytecode", .obj [("object", .str (codeOf fragments))])])]
    let output : Json := .obj [("contracts", .obj [("C.sol", .obj [("C", contract)])])]
    linked (codeOf fragments) = "73" ++ String.ofList (zeroAddress ++ zeroAddress) ++ "60Fe" ∧
      (codeOf fragments).toList[82]? = some '6' ∧
      (linked (codeOf fragments)).toList[82]? = some '6' ∧
      Declares output "C.sol" [("C", contract)] ∧ HasCode contract (codeOf fragments) ∧
      ∀ e, selectContract output (.str "C.sol") (.str "C") ≠ failWith e := by
  intro fragments contract output
  obtain ⟨hlinked, -, hplaces, -, -, -, -, hselect⟩ := linked_ofFragments fragments
  obtain ⟨hbefore, hafter⟩ := hplaces (fragments.take 3) _ _ [] rfl 0 (by decide)
  have hlength : (codeOf (fragments.take 3)).length = 82 := by decide +kernel
  rw [hlength] at hbefore hafter
  have hcontracts : Declares output "C.sol" [("C", contract)] := ⟨_, rfl, rfl⟩
  have hcode : HasCode contract (codeOf fragments) := ⟨_, _, rfl, rfl, rfl⟩
  refine ⟨hlinked.trans (by decide +kernel), hbefore, hafter, hcontracts, hcode, ?_⟩
  exact (hselect output "C.sol" _ "C" contract hcontracts rfl hcode).2 (by decide +kernel)

end ContractAudit.Solidity
