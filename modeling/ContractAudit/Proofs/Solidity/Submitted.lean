/-
  The bytecode that is submitted.

  * `IsCode`: an even and positive number of hexadecimal digits, with or without `0x` in front, and
    nothing else.
  * `getLast?_linkedChars`: linking keeps a line feed at the end, and adds none.
  * `requestData_bytecode`: the bytecode in the data of a request is code, but for a line feed at
    its end if the contract has one there.  Such a line feed is submitted (`feed_is_submitted`).
-/
import ContractAudit.Proofs.Solidity.Accepted
import ContractAudit.Proofs.Solidity.Linking
import ContractAudit.Proofs.Submission

namespace ContractAudit.Solidity

/-- A positive and even number of hexadecimal digits, with or without `0x` in front of them. -/
def IsCode (s : List Char) : Prop :=
  ∃ lead digits, s = lead ++ digits ∧ (lead = [] ∨ lead = ['0', 'x']) ∧ HexPairs digits ∧
    digits ≠ []

/-- The line feed at the end of a text, if it ends with one. -/
def lastFeed (s : List Char) : List Char :=
  if s.getLast? = some '\n' then ['\n'] else []

section
variable {s : List Char}

theorem IsCode.getLast?_ne (h : IsCode s) : s.getLast? ≠ some '\n' := by
  obtain ⟨lead, digits, rfl, -, hdigits, hne⟩ := h
  rw [List.getLast?_append_of_ne_nil _ hne]
  intro hlast
  exact absurd (hdigits.hex _ (List.mem_of_getLast? hlast)) (by decide)

theorem linkedChars_ne_nil (h : s ≠ []) : linkedChars s ≠ [] := by
  obtain ⟨c, rest, rfl⟩ := List.exists_cons_of_ne_nil h
  rw [linkedChars]
  split <;> exact List.cons_ne_nil _ _

/-- **Linking keeps a line feed at the end**, and adds none. -/
theorem getLast?_linkedChars :
    (linkedChars s).getLast? = some '\n' ↔ s.getLast? = some '\n' := by
  -- what stands before a text counts only where the text is empty
  have hor {found : Option Char} {d : Char} (hd : d ≠ '\n') :
      found.or (some d) = some '\n' ↔ found = some '\n' := by cases found <;> simp [hd]
  fun_induction linkedChars s with
  | case1 s rest h ih =>
    obtain ⟨word, -, -, rfl⟩ := afterPlaceholder?_eq_some_iff.1 h
    have hzero : zeroAddress.getLast? = some '0' := rfl
    have hmark : (placeholderOf word).getLast? = some '_' := by
      simp [placeholderOf, placeholderClosing]
    rw [List.getLast?_append, hzero, hor (by decide), List.getLast?_append, hmark,
      hor (by decide)]
    exact ih
  | case2 h => exact Iff.rfl
  | case3 c rest h ih =>
    by_cases hrest : rest = []
    · rw [hrest, linkedChars_of_notMem List.not_mem_nil]
    · rw [List.getLast?_cons_of_ne_nil hrest,
        List.getLast?_cons_of_ne_nil (linkedChars_ne_nil hrest)]
      exact ih

/-- Bytecode is code, but for a line feed at its end. -/
theorem exists_isCode_of_isBytecode (h : isBytecode s = true) :
    ∃ code, IsCode code ∧ s = code ++ lastFeed s := by
  obtain ⟨lead, digits, tail, rfl, hlead, hdigits, hne, htail⟩ := isBytecode_iff.1 h
  have hcode : IsCode (lead ++ digits) := ⟨lead, digits, rfl, hlead, hdigits, hne⟩
  refine ⟨_, hcode, ?_⟩
  rcases htail with rfl | rfl
  · rw [List.append_nil, lastFeed, if_neg hcode.getLast?_ne, List.append_nil]
  · rw [lastFeed, if_pos (List.getLast?_concat ..)]

end

/-! ## The data of a request -/

section
variable {output source name sources mode listed mainSource : Json} {c : Contract}
  {data : RequestData}

theorem requestData_yields :
    Yields (requestData c output sources mode listed mainSource) (·.contract = c) := by
  unfold requestData
  -- what is gathered for a source list, and before that the list
  extract_lets gathered
  have hgathered : ∀ list, Yields (gathered list) (·.contract = c) :=
    fun _ => .bind fun _ _ => .bind fun _ _ => .pure rfl
  split
  · exact .bind fun _ _ => .bind fun _ _ => hgathered _
  · exact .bind fun _ _ => hgathered _

theorem get_bytecode (data : RequestData) :
    data.toJson.get "bytecode" = .ok (.str (linked data.contract.bytecode)) := rfl

/-- The output of the compiler for one contract with some bytecode. -/
def outputWith (code : String) : Json :=
  .obj [("contracts", .obj [("C.sol", .obj [("C",
      .obj [("evm", .obj [("bytecode", .obj [("object", .str code)])])])])]),
    ("sources", .obj [("C.sol", .obj [("id", .int 0)])])]

theorem exists_requestWith (code : String)
    (h : (selectContract (outputWith code) (.str "C.sol") .null).toOption.map (·.bytecode) =
      some code) :
    ∃ c data, selectContract (outputWith code) (.str "C.sol") .null = .ok c ∧ c.bytecode = code ∧
      requestData c (outputWith code) (.obj []) (.str "quick") .null = .ok data := by
  obtain ⟨c, hc, hcode⟩ := Option.map_eq_some_iff.1 h
  obtain ⟨data, hdata⟩ : ∃ data,
      requestData c (outputWith code) (.obj []) (.str "quick") .null = .ok data :=
    exists_requestData c (.str "quick") _ rfl (List.forall_mem_singleton.2 ⟨_, 0, rfl, rfl⟩)
  exact ⟨c, data, toOption_eq_some_iff.1 hc, hcode, hdata⟩

/-- **What is submitted as bytecode is code**, and behind it the line feed that the bytecode of the
contract ends with, if it does. -/
theorem requestData_bytecode (hc : selectContract output source name = .ok c)
    (hdata : requestData c output sources mode listed mainSource = .ok data) :
    ∃ code, IsCode code ∧ data.toJson.get "bytecode" =
      .ok (.str (String.ofList (code ++ lastFeed c.bytecode.toList))) := by
  obtain ⟨-, hcheck⟩ := selectContract_yields output source name c hc
  obtain ⟨code, hcode, hlinked⟩ := exists_isCode_of_isBytecode hcheck
  have hfeed : lastFeed (linkedChars c.bytecode.toList) = lastFeed c.bytecode.toList :=
    if_congr getLast?_linkedChars rfl rfl
  refine ⟨code, hcode, ?_⟩
  rw [get_bytecode, requestData_yields data hdata, linked, hlinked, hfeed]

/-- Bytecode with a placeholder behind `0x`, and no line feed. -/
theorem requestData_bytecode_prefixed :
    let code := "0x73" ++ String.ofList (placeholderOf (List.replicate 34 'a'))
    ∃ c data, selectContract (outputWith code) (.str "C.sol") .null = .ok c ∧
      requestData c (outputWith code) (.obj []) (.str "quick") .null = .ok data ∧
      ∃ submitted, IsCode submitted ∧
        data.toJson.get "bytecode" = .ok (.str (String.ofList submitted)) := by
  intro code
  obtain ⟨c, data, hc, hcode, hdata⟩ := exists_requestWith code (by decide +kernel)
  obtain ⟨submitted, hsubmitted, hbytecode⟩ := requestData_bytecode hc hdata
  have hfeed : lastFeed c.bytecode.toList = [] := by
    rw [hcode]
    decide +kernel
  rw [hfeed, List.append_nil] at hbytecode
  exact ⟨c, data, hc, hdata, submitted, hsubmitted, hbytecode⟩

/-- **A line feed behind the digits is submitted.** -/
theorem feed_is_submitted :
    ∃ c data, selectContract (outputWith "6000\n") (.str "C.sol") .null = .ok c ∧
      requestData c (outputWith "6000\n") (.obj []) (.str "quick") .null = .ok data ∧
      data.toJson.get "bytecode" = .ok (.str "6000\n") ∧ ¬ IsCode "6000\n".toList := by
  obtain ⟨c, data, hc, hcode, hdata⟩ := exists_requestWith "6000\n" (by decide +kernel)
  have hlinked : linked "6000\n" = "6000\n" := by decide +kernel
  refine ⟨c, data, hc, hdata, ?_, fun h => h.getLast?_ne (by decide)⟩
  rw [get_bytecode, requestData_yields data hdata, hcode, hlinked]

end

end ContractAudit.Solidity
