/-
  The contract that is taken when none is named.

  * `Declares output source contracts`: the contracts of a file in the output of the compiler.
  * `IsLastLargest contracts name contract code`: no contract has longer bytecode, and those that
    are declared behind it have shorter.  There is one if there are contracts
    (`exists_isLastLargest`), and it is the default one (`IsLastLargest.defaultName_eq`), as the
    search goes through them from the last to the first and keeps the first that is largest
    (`largest?_append`).
  * `contractNamed_eq`: what is made of a contract is settled by its bytecode.
  * `selectContract_default`: without a name the last of the largest contracts is taken, the parts
    of the record stand below its entry, and which compile errors there are.
-/
import ContractAudit.Proofs.Solidity.Bytecode
import ContractAudit.Proofs.Solidity.Record

namespace ContractAudit.Solidity

/-! ## The first of the largest -/

section
variable {α : Type} {x y : α} {n m : Nat} {before after : List (α × Nat)}

theorem largest?_go_eq (h : ∀ e ∈ after, e.2 ≤ n) : largest?.go x n after = x := by
  induction after with
  | nil => rfl
  | cons e after ih =>
    obtain ⟨he, hafter⟩ := List.forall_mem_cons.1 h
    rw [largest?.go, if_neg (Nat.not_lt.2 he), ih hafter]

theorem largest?_go_append (hm : m < n) (hbefore : ∀ e ∈ before, e.2 < n)
    (hafter : ∀ e ∈ after, e.2 ≤ n) : largest?.go y m (before ++ (x, n) :: after) = x := by
  induction before generalizing y m with
  | nil => rw [List.nil_append, largest?.go, if_pos hm, largest?_go_eq hafter]
  | cons e before ih =>
    obtain ⟨he, hrest⟩ := List.forall_mem_cons.1 hbefore
    rw [List.cons_append, largest?.go]
    split
    · exact ih he hrest
    · exact ih hm hrest

/-- **What is smaller before it and no larger behind it is the first of the largest.** -/
theorem largest?_append (hbefore : ∀ e ∈ before, e.2 < n) (hafter : ∀ e ∈ after, e.2 ≤ n) :
    largest? (before ++ (x, n) :: after) = some x := by
  cases before with
  | nil => exact congrArg some (largest?_go_eq hafter)
  | cons e before =>
    obtain ⟨he, hrest⟩ := List.forall_mem_cons.1 hbefore
    exact congrArg some (largest?_go_append he hrest hafter)

end

/-! ## The contracts of a file -/

/-- The contracts that the output has for a file; there are none if it does not know the file. -/
def Declares (output : Json) (source : String) (contracts : Json.Members) : Prop :=
  ∃ files, output.Opens "contracts" files ∧ (Json.obj files).Opens source contracts

/-- The bytecode of every contract is a text, or there is none. -/
def HaveCode (contracts : Json.Members) : Prop :=
  ∀ e ∈ contracts, ∃ code, HasCode e.2 code

/-- The contract, with the bytecode `code`, is the last of the largest: none has longer bytecode,
and those that are declared behind it have shorter. -/
structure IsLastLargest (contracts : Json.Members) (name : String) (contract : Json)
    (code : String) : Prop where
  hasCode : HasCode contract code
  declared : ∃ before after, contracts = before ++ (name, contract) :: after ∧
    (∀ e ∈ before, ∀ other, HasCode e.2 other → other.length ≤ code.length) ∧
    ∀ e ∈ after, ∀ other, HasCode e.2 other → other.length < code.length

section
variable {contracts : Json.Members} {name code : String} {contract : Json}

/-- **There is a last of the largest contracts**, if there are contracts. -/
theorem exists_isLastLargest (hcode : HaveCode contracts) (hne : contracts ≠ []) :
    ∃ name contract code, IsLastLargest contracts name contract code := by
  induction contracts with
  | nil => exact absurd rfl hne
  | cons e rest ih =>
    obtain ⟨⟨code, he⟩, hrest⟩ := List.forall_mem_cons.1 hcode
    by_cases hnone : rest = []
    · subst hnone
      exact ⟨e.1, e.2, code, he, [], [], rfl, nofun, nofun⟩
    · obtain ⟨name, contract, largest, hlargest, before, after, rfl, hbefore, hafter⟩ :=
        ih hrest hnone
      by_cases hlt : largest.length < code.length
      · -- the first one is longer than the longest of the others
        refine ⟨e.1, e.2, code, he, [], _, rfl, nofun, fun e' he' other hother => ?_⟩
        rcases List.mem_append.1 he' with he' | he'
        · exact Nat.lt_of_le_of_lt (hbefore e' he' other hother) hlt
        rcases List.mem_cons.1 he' with rfl | he'
        · obtain rfl := hlargest.unique hother
          exact hlt
        · exact Nat.lt_trans (hafter e' he' other hother) hlt
      · refine ⟨name, contract, largest, hlargest, e :: before, after, rfl, ?_, hafter⟩
        refine List.forall_mem_cons.2 ⟨fun other hother => ?_, hbefore⟩
        obtain rfl := he.unique hother
        exact Nat.le_of_not_lt hlt

namespace IsLastLargest

theorem mem (h : IsLastLargest contracts name contract code) : (name, contract) ∈ contracts := by
  obtain ⟨before, after, rfl, -, -⟩ := h.declared
  exact List.mem_append_right _ List.mem_cons_self

theorem length_le (h : IsLastLargest contracts name contract code) {e : String × Json}
    (he : e ∈ contracts) {other : String} (hother : HasCode e.2 other) :
    other.length ≤ code.length := by
  obtain ⟨before, after, rfl, hbefore, hafter⟩ := h.declared
  rcases List.mem_append.1 he with he | he
  · exact hbefore e he other hother
  rcases List.mem_cons.1 he with rfl | he
  · obtain rfl := h.hasCode.unique hother
    exact Nat.le_refl _
  · exact Nat.le_of_lt (hafter e he other hother)

theorem eq_empty_iff (h : IsLastLargest contracts name contract code) (hcode : HaveCode contracts) :
    code = "" ↔ ∀ e ∈ contracts, HasCode e.2 "" := by
  constructor
  · rintro rfl e he
    obtain ⟨other, hother⟩ := hcode e he
    have hle : other.length ≤ 0 := h.length_le he hother
    obtain rfl : other = "" := String.length_eq_zero_iff.1 (Nat.le_zero.1 hle)
    exact hother
  · exact fun hall => h.hasCode.unique (hall _ h.mem)

end IsLastLargest

/-- The number of characters of the bytecode. -/
def codeSize (contract : Json) : Nat :=
  match objectCode contract with
  | .ok (.str code) => code.length
  | _ => 0

theorem HasCode.codeSize_eq (h : HasCode contract code) : codeSize contract = code.length := by
  rw [codeSize, h.objectCode_eq]

theorem select_of_mem (hkeys : (Keyed.keys contracts).Nodup) (h : (name, contract) ∈ contracts) :
    (Json.obj contracts).select (.str name) = .ok contract := by
  rw [Json.select, Json.memberAt?, Keyed.lookup?_of_mem hkeys h]
  rfl

/-- The sizes that the contracts are compared by, from the last to the first. -/
theorem sizes_eq (hkeys : (Keyed.keys contracts).Nodup) (hcode : HaveCode contracts) :
    ((contracts.map fun e => Json.str e.1).reverse.mapM fun name => do
      let contract ← (Json.obj contracts).select name
      let code ← objectCode contract
      pure (name, ← code.size)) =
      .ok (contracts.reverse.map fun e => (.str e.1, codeSize e.2)) := by
  rw [mapM_eq_ok_iff, ← List.map_reverse, List.forall₂_map_left_iff, List.forall₂_map_right_iff,
    List.forall₂_same]
  intro e he
  have hmem : e ∈ contracts := List.mem_reverse.1 he
  obtain ⟨code, hobject⟩ := hcode e hmem
  have hsize : (Json.str code).size = .ok code.length := by
    simp [Json.size, Json.elements, Except.map, String.length_toList]
  rw [select_of_mem hkeys hmem, ok_bind, hobject.objectCode_eq, ok_bind, hsize, hobject.codeSize_eq]
  rfl

/-- **The last of the largest contracts is the default one.** -/
theorem IsLastLargest.defaultName_eq (h : IsLastLargest contracts name contract code)
    (hkeys : (Keyed.keys contracts).Nodup) (hcode : HaveCode contracts) :
    defaultName (.obj contracts) = .ok (.str name) := by
  obtain ⟨hobject, before, after, rfl, hbefore, hafter⟩ := h
  -- what is known of the bytecode of some contracts holds of their sizes
  have hsizes {P : Nat → Prop} {part : Json.Members}
      (hpart : part ⊆ before ++ (name, contract) :: after)
      (hP : ∀ e ∈ part, ∀ other, HasCode e.2 other → P other.length) :
      ∀ s ∈ part.reverse.map fun e => (Json.str e.1, codeSize e.2), P s.2 := by
    intro s hs
    obtain ⟨e, he, rfl⟩ := List.mem_map.1 hs
    have hmem : e ∈ part := List.mem_reverse.1 he
    obtain ⟨other, hother⟩ := hcode e (hpart hmem)
    dsimp only
    rw [hother.codeSize_eq]
    exact hP e hmem other hother
  have hlargest : largest? ((before ++ (name, contract) :: after).reverse.map
      fun e => (Json.str e.1, codeSize e.2)) = some (.str name) := by
    rw [List.reverse_append, List.reverse_cons, List.append_assoc, List.singleton_append,
      List.map_append, List.map_cons, hobject.codeSize_eq]
    refine largest?_append (hsizes (P := (· < code.length)) ?_ hafter)
      (hsizes (P := (· ≤ code.length)) ?_ hbefore)
    · exact fun e he => List.mem_append_right _ (List.mem_cons_of_mem _ he)
    · exact fun e he => List.mem_append_left _ he
  rw [defaultName, Json.elements, ok_bind, sizes_eq hkeys hcode, ok_bind, hlargest]
  rfl

end

/-! ## The contract of a name -/

section
variable {output source name : Json} {contracts : Json.Members} {key code : String}
  {contract : Json}

/-- What is done with the contract of a name. -/
def contractNamed (contracts source name : Json) : Except (Fault CompileError) Contract := do
  let contract ← contracts.select name
  let bytecode ← machinePart contract "bytecode"
  let deployed ← machinePart contract "deployedBytecode"
  match ← bytecode.get "object" with
  | .str code =>
    if code = "" then failWith .noBytecode
    if !isBytecode (linkedChars code.toList) then failWith .malformedBytecode
    contractRecord name source contract bytecode deployed
  | v => if v.isSet then throw (.defect .wrongKind) else failWith .noBytecode

/-- What is taken of the contracts of a file. -/
def takenOf (contracts source name : Json) : Except (Fault CompileError) Contract := do
  if !contracts.isSet then failWith (.noContractsIn source)
  let name ← match name with
    | .null => (defaultName contracts : Except Defect Json)
    | n => if ← contracts.holds n then pure n else failWith (.noContractNamed n source)
  contractNamed contracts source name

theorem selectContract_eq {source : String} (h : Declares output source contracts) (name : Json) :
    selectContract output (.str source) name = takenOf (.obj contracts) (.str source) name := by
  obtain ⟨files, hfiles, hcontracts⟩ := h
  obtain ⟨v, hget, hv⟩ := hfiles.exists_get
  have hcontracts : ((Keyed.lookup? source files).getD .null).orElse (.obj []) = .obj contracts :=
    Except.ok.inj hcontracts
  rw [selectContract, hget]
  simp -zeta only [liftM_ok, ok_bind, hv, Json.at?, Json.asMembers, Json.memberAt?, hcontracts]
  rfl

theorem takenOf_null (hne : contracts ≠ []) :
    takenOf (.obj contracts) source .null =
      liftM (defaultName (.obj contracts)) >>= contractNamed (.obj contracts) source := by
  obtain ⟨e, contracts, rfl⟩ := List.exists_cons_of_ne_nil hne
  rfl

theorem takenOf_str (hkey : (Keyed.lookup? key contracts).isSome) :
    takenOf (.obj contracts) source (.str key) =
      contractNamed (.obj contracts) source (.str key) := by
  cases contracts with
  | nil => cases hkey
  | cons e contracts =>
    have hholds : (Json.obj (e :: contracts)).holds (.str key) = .ok true :=
      congrArg Except.ok hkey
    rw [takenOf]
    simp -zeta only [hholds, liftM_ok, ok_bind]
    rfl

/-- **What is made of a contract is settled by its bytecode.** -/
theorem contractNamed_eq (source : Json)
    (hselect : (Json.obj contracts).select name = .ok contract) (hcode : HasCode contract code) :
    ∃ bytecode deployed, machinePart contract "bytecode" = .ok bytecode ∧
      machinePart contract "deployedBytecode" = .ok deployed ∧
      contractNamed (.obj contracts) source name =
        if code = "" then failWith .noBytecode
        else if isBytecode (linkedChars code.toList) then
          liftM (contractRecord name source contract bytecode deployed)
        else failWith .malformedBytecode := by
  obtain ⟨bytecode, deployed, hbytecode, hdeployed, hobject⟩ := hcode.exists_parts
  refine ⟨_, deployed, hbytecode, hdeployed, ?_⟩
  rw [contractNamed, hselect, liftM_ok, ok_bind, hbytecode, liftM_ok, ok_bind, hdeployed, liftM_ok,
    ok_bind, Json.get, Json.get?, Json.asMembers, Except.map, Except.map, liftM_ok, ok_bind]
  cases hfound : Keyed.lookup? "object" bytecode with
  | none =>
    rw [hfound] at hobject
    cases hobject
    rfl
  | some v =>
    rw [hfound] at hobject
    obtain rfl : v = .str code := hobject
    dsimp only [Option.getD_some]
    by_cases hempty : code = ""
    · rw [if_pos hempty, if_pos hempty]
      rfl
    · rw [if_neg hempty, if_neg hempty]
      cases isBytecode (linkedChars code.toList) <;> rfl

end

/-! ## The default contract -/

section
variable {output contract : Json} {source name code : String} {contracts : Json.Members}

/-- The default contract is taken as if it had been named. -/
theorem IsLastLargest.selectContract_eq (h : IsLastLargest contracts name contract code)
    (hcontracts : Declares output source contracts) (hkeys : (Keyed.keys contracts).Nodup)
    (hcode : HaveCode contracts) :
    selectContract output (.str source) .null =
        contractNamed (.obj contracts) (.str source) (.str name) ∧
      selectContract output (.str source) (.str name) =
        contractNamed (.obj contracts) (.str source) (.str name) := by
  have hlookup : Keyed.lookup? name contracts = some contract := Keyed.lookup?_of_mem hkeys h.mem
  constructor
  · rw [Solidity.selectContract_eq hcontracts, takenOf_null (List.ne_nil_of_mem h.mem),
      h.defaultName_eq hkeys hcode, liftM_ok, ok_bind]
  · rw [Solidity.selectContract_eq hcontracts, takenOf_str (by rw [hlookup]; rfl)]

theorem IsLastLargest.unique {name' code' : String} {contract' : Json}
    (h : IsLastLargest contracts name contract code)
    (h' : IsLastLargest contracts name' contract' code') (hkeys : (Keyed.keys contracts).Nodup)
    (hcode : HaveCode contracts) : name = name' ∧ contract = contract' ∧ code = code' := by
  obtain rfl : name = name' :=
    Json.str.inj (Except.ok.inj ((h.defaultName_eq hkeys hcode).symm.trans
      (h'.defaultName_eq hkeys hcode)))
  obtain rfl : contract = contract' :=
    Option.some.inj ((Keyed.lookup?_of_mem hkeys h.mem).symm.trans
      (Keyed.lookup?_of_mem hkeys h'.mem))
  exact ⟨rfl, rfl, h.hasCode.unique h'.hasCode⟩

theorem liftM_ne_failWith {α : Type} (x : Except Defect α) (e : CompileError) :
    (liftM x : Except (Fault CompileError) α) ≠ failWith e := by
  cases x <;> nofun

theorem failWith_inj_iff {α : Type} {e e' : CompileError} :
    (failWith e' : Except (Fault CompileError) α) = failWith e ↔ e = e' := by
  rw [failWith, failWith, Except.error.injEq, Fault.error.injEq, eq_comm]

/-- How the contract of a name fails with a compile error. -/
theorem contractNamed_eq_failWith_iff {source name : Json}
    (hselect : (Json.obj contracts).select name = .ok contract) (hcode : HasCode contract code)
    {e : CompileError} :
    contractNamed (.obj contracts) source name = failWith e ↔
      e = .noBytecode ∧ code = "" ∨
      e = .malformedBytecode ∧ code ≠ "" ∧ ¬ BytecodeForm (linkedChars code.toList) := by
  obtain ⟨bytecode, deployed, -, -, heq⟩ := contractNamed_eq source hselect hcode
  rw [heq, ← isBytecode_iff]
  split
  · next hempty => simp [failWith_inj_iff, hempty]
  · next hne =>
    split
    · next hform => simp [liftM_ne_failWith, hne, hform]
    · next hform => simp [failWith_inj_iff, hne, hform]

theorem contractNamed_isRecordOf
    (hselect : (Json.obj contracts).select (.str name) = .ok contract)
    (hcode : HasCode contract code) :
    Yields (contractNamed (.obj contracts) (.str source) (.str name))
      (·.IsRecordOf name source contract) := by
  obtain ⟨bytecode, deployed, hbytecode, hdeployed, heq⟩ := contractNamed_eq _ hselect hcode
  rw [heq]
  intro c hc
  split at hc
  · cases hc
  split at hc
  · exact contractRecord_isRecordOf hbytecode hdeployed c (liftM_eq_ok.1 hc)
  · cases hc

/-- **Without a name the last of the largest contracts is taken.**  There is one if the file has
contracts; what is taken is what its name gives, and every part of the record stands below its
entry; and the compile errors are that there are no contracts, that none of them has bytecode, and
that the bytecode of this one, linked, does not have the form of bytecode. As in every object that
is read, no name is repeated. -/
theorem selectContract_default (hcontracts : Declares output source contracts)
    (hkeys : (Keyed.keys contracts).Nodup) (hcode : HaveCode contracts) :
    (contracts ≠ [] → ∃! name, ∃ contract code, IsLastLargest contracts name contract code) ∧
      (∀ name contract code, IsLastLargest contracts name contract code →
        selectContract output (.str source) .null =
          selectContract output (.str source) (.str name) ∧
        ∀ c, selectContract output (.str source) .null = .ok c →
          c.IsRecordOf name source contract) ∧
      ∀ e, selectContract output (.str source) .null = failWith e ↔
        e = .noContractsIn (.str source) ∧ contracts = [] ∨
        e = .noBytecode ∧ contracts ≠ [] ∧ (∀ entry ∈ contracts, HasCode entry.2 "") ∨
        e = .malformedBytecode ∧ ∃ name contract code,
          IsLastLargest contracts name contract code ∧ code ≠ "" ∧
            ¬ BytecodeForm (linkedChars code.toList) := by
  refine ⟨fun hne => ?_, fun name contract code h => ?_, fun e => ?_⟩
  · obtain ⟨name, contract, code, h⟩ := exists_isLastLargest hcode hne
    refine ⟨name, ⟨contract, code, h⟩, ?_⟩
    rintro other ⟨contract', code', h'⟩
    exact (h'.unique h hkeys hcode).1
  · obtain ⟨hdefault, hnamed⟩ := h.selectContract_eq hcontracts hkeys hcode
    rw [hdefault, hnamed]
    exact ⟨rfl, contractNamed_isRecordOf (select_of_mem hkeys h.mem) h.hasCode⟩
  · by_cases hnil : contracts = []
    · subst hnil
      have hnone : selectContract output (.str source) .null =
          failWith (.noContractsIn (.str source)) := by
        rw [selectContract_eq hcontracts]
        rfl
      have hlargest {name contract code} : ¬ IsLastLargest [] name contract code := fun h =>
        List.not_mem_nil h.mem
      simp [hnone, failWith_inj_iff, hlargest]
    · obtain ⟨name, contract, code, h⟩ := exists_isLastLargest hcode hnil
      rw [(h.selectContract_eq hcontracts hkeys hcode).1,
        contractNamed_eq_failWith_iff (select_of_mem hkeys h.mem) h.hasCode, h.eq_empty_iff hcode]
      constructor
      · rintro (⟨he, hempty⟩ | ⟨he, hform⟩)
        · exact .inr (.inl ⟨he, hnil, hempty⟩)
        · exact .inr (.inr ⟨he, name, contract, code, h, hform⟩)
      · rintro (⟨-, habsurd⟩ | ⟨he, -, hempty⟩ | ⟨he, name', contract', code', h', hform⟩)
        · exact absurd habsurd hnil
        · exact .inl ⟨he, hempty⟩
        · obtain ⟨rfl, rfl, rfl⟩ := h'.unique h hkeys hcode
          exact .inr ⟨he, hform⟩

/-- Two contracts with equally long bytecode, and one without: the second one is taken. -/
theorem selectContract_default_tied :
    let entry (code : String) : Json :=
      .obj [("evm", .obj [("bytecode", .obj [("object", .str code)])])]
    let contracts : Json.Members :=
      [("Base", entry "60"), ("First", entry "6001"), ("Last", entry "6002"), ("Named", .obj [])]
    let output : Json := .obj [("contracts", .obj [("C.sol", .obj contracts)])]
    Declares output "C.sol" contracts ∧ (Keyed.keys contracts).Nodup ∧ HaveCode contracts ∧
      selectContract output (.str "C.sol") .null =
        selectContract output (.str "C.sol") (.str "Last") ∧
      ∃ c, selectContract output (.str "C.sol") .null = .ok c ∧
        c.IsRecordOf "Last" "C.sol" (entry "6002") ∧ c.bytecode = "6002" := by
  intro entry contracts output
  have hentry (code : String) : HasCode (entry code) code := ⟨_, _, rfl, rfl, rfl⟩
  have hnamed : HasCode (.obj []) "" := ⟨[], [], rfl, rfl, rfl⟩
  have hcontracts : Declares output "C.sol" contracts := ⟨_, rfl, rfl⟩
  have hkeys : (Keyed.keys contracts).Nodup := by decide +kernel
  have hcode : HaveCode contracts := by
    simp only [HaveCode, contracts, List.forall_mem_cons]
    exact ⟨⟨_, hentry _⟩, ⟨_, hentry _⟩, ⟨_, hentry _⟩, ⟨_, hnamed⟩, nofun⟩
  have hlast : IsLastLargest contracts "Last" (entry "6002") "6002" := by
    refine ⟨hentry _, [("Base", entry "60"), ("First", entry "6001")], [("Named", .obj [])], rfl,
      ?_, ?_⟩
    · simp only [List.forall_mem_cons]
      refine ⟨fun other h => ?_, fun other h => ?_, nofun⟩
      · obtain rfl := (hentry _).unique h
        decide
      · obtain rfl := (hentry _).unique h
        decide
    · simp only [List.forall_mem_cons]
      refine ⟨fun other h => ?_, nofun⟩
      obtain rfl := hnamed.unique h
      decide
  obtain ⟨-, htaken, -⟩ := selectContract_default hcontracts hkeys hcode
  obtain ⟨hdefault, hrecord⟩ := htaken _ _ _ hlast
  refine ⟨hcontracts, hkeys, hcode, hdefault, ?_⟩
  have hbytecode : (selectContract output (.str "C.sol") .null).toOption.map (·.bytecode) =
      some "6002" := by decide +kernel
  obtain ⟨c, hc, hcode⟩ := Option.map_eq_some_iff.1 hbytecode
  have hok := toOption_eq_some_iff.1 hc
  exact ⟨c, hok, hrecord c hok, hcode⟩

end

end ContractAudit.Solidity
