/-
  The record of a contract.

  * `HasCode contract code`: the bytecode of a contract in the output of the compiler, the empty
    text if it has none; this is what is read (`HasCode.objectCode_eq`).
  * `Contract.IsRecordOf`: every part of a record stands below the entry of its contract.
  * `contractRecord_isRecordOf`: such is the record that is made.
-/
import ContractAudit.Proofs.Answers
import ContractAudit.Proofs.Json.Below
import ContractAudit.Solidity.Contract

namespace ContractAudit.Solidity

/-! ## The bytecode of a contract -/

/-- The bytecode of a contract is a text, which is empty if there is none. -/
def HasCode (contract : Json) (code : String) : Prop :=
  ∃ machine bytecode, contract.Opens "evm" machine ∧
    (Json.obj machine).Opens "bytecode" bytecode ∧
    (Keyed.lookup? "object" bytecode).getD (.str "") = .str code

section
variable {contract v : Json} {machine : Json.Members} {part key code : String}
  {keys : List String}

/-- A part of the machine code section, where there is one. -/
theorem machinePart_of_opens (h : contract.Opens "evm" machine) (part : String) :
    machinePart contract part =
      .ok (((Keyed.lookup? part machine).getD .null).orElse (.obj [])) := by
  obtain ⟨v, hget, hv⟩ := h.exists_get
  rw [machinePart, hget, ok_bind, hv]
  rfl

theorem below?_of_machinePart (h : machinePart contract part = .ok v) :
    v.below? (key :: keys) = contract.below? ("evm" :: part :: key :: keys) := by
  rw [machinePart] at h
  obtain ⟨machine, hmachine, h⟩ := bind_eq_ok.1 h
  obtain ⟨found, hfound, h⟩ := bind_eq_ok.1 h
  cases h
  rw [Json.below?_orElse, Json.below?_of_get hfound, Json.below?_orElse,
    Json.below?_of_get hmachine]

theorem HasCode.exists_parts (h : HasCode contract code) :
    ∃ bytecode deployed, machinePart contract "bytecode" = .ok (.obj bytecode) ∧
      machinePart contract "deployedBytecode" = .ok deployed ∧
      (Keyed.lookup? "object" bytecode).getD (.str "") = .str code := by
  obtain ⟨machine, bytecode, hmachine, hbytecode, hobject⟩ := h
  refine ⟨bytecode, _, ?_, machinePart_of_opens hmachine _, hobject⟩
  rw [machinePart_of_opens hmachine]
  exact hbytecode

/-- **The bytecode is what is read of a contract.** -/
theorem HasCode.objectCode_eq (h : HasCode contract code) :
    objectCode contract = .ok (.str code) := by
  obtain ⟨bytecode, -, hbytecode, -, hobject⟩ := h.exists_parts
  rw [objectCode, hbytecode]
  exact congrArg Except.ok hobject

theorem HasCode.unique {other : String} (h : HasCode contract code)
    (h' : HasCode contract other) : code = other :=
  Json.str.inj (Except.ok.inj (h.objectCode_eq.symm.trans h'.objectCode_eq))

end

/-! ## Its record -/

/-- The text that stands under keys of a contract; it is empty if nothing does. -/
def TextBelow (contract : Json) (keys : List String) (s : String) : Prop :=
  contract.below? keys = some (.str s) ∨ contract.below? keys = none ∧ s = ""

/-- Every part of the record stands below the entry of the contract. -/
structure Contract.IsRecordOf (c : Contract) (name source : String) (contract : Json) : Prop where
  name_eq : c.name = name
  sourcePath_eq : c.sourcePath = source
  bytecode : TextBelow contract ["evm", "bytecode", "object"] c.bytecode
  deployedBytecode : TextBelow contract ["evm", "deployedBytecode", "object"] c.deployedBytecode
  sourceMap : TextBelow contract ["evm", "bytecode", "sourceMap"] c.sourceMap
  deployedSourceMap :
    TextBelow contract ["evm", "deployedBytecode", "sourceMap"] c.deployedSourceMap
  methodIdentifiers :
    ((contract.below? ["evm", "methodIdentifiers"]).getD .null).orElse (.obj []) =
      .obj (c.methodIdentifiers.map fun m => (m.1, .str m.2))

section
variable {contract bytecode deployed v w : Json} {part key : String}

theorem string_eq_ok {s : String} (h : Json.Field.string v = .ok s) : v = .str s := by
  cases v with
  | str t => rw [Except.ok.inj h]
  | _ => cases h

theorem textBelow_of_machinePart {s : String} (hpart : machinePart contract part = .ok v)
    (hmember : (v.get? key).map (·.getD (.str "")) = .ok w) (hs : Json.Field.string w = .ok s) :
    TextBelow contract ["evm", part, key] s := by
  cases hfound : v.get? key with
  | error d => rw [hfound] at hmember; cases hmember
  | ok found =>
    rw [hfound] at hmember
    have hw : found.getD (.str "") = .str s := (Except.ok.inj hmember).trans (string_eq_ok hs)
    rw [TextBelow, ← below?_of_machinePart hpart, Json.below?_of_get? hfound]
    cases found with
    | none => exact .inr ⟨rfl, (Json.str.inj hw).symm⟩
    | some u => exact .inl (congrArg some hw)

theorem mapping_string_eq_ok {entries : List (String × String)}
    (h : Json.Field.mapping .string v = .ok entries) :
    v = .obj (entries.map fun m => (m.1, .str m.2)) := by
  cases v with
  | obj ms =>
    have hms := mapM_eq_ok_iff.1 (h : ms.mapM _ = _)
    rw [Json.obj.injEq]
    refine List.forall₂_eq_eq_eq ▸ List.forall₂_map_right_iff.2 (hms.imp fun m entry hm => ?_)
    obtain ⟨k, u⟩ := m
    cases hu : Json.Field.string u with
    | error d => dsimp only at hm; rw [hu] at hm; cases hm
    | ok s =>
      dsimp only at hm
      rw [hu] at hm
      cases hm
      rw [string_eq_ok hu]
  | _ => cases h

/-- The identifiers of methods of a contract. -/
theorem methods_of_get {found : Option Json} {entries : List (String × String)}
    (hfound : contract.get? "evm" = .ok found)
    (hv : (found.getD (.obj [])).get "methodIdentifiers" = .ok v)
    (hentries : Json.Field.mapping .string (v.orElse (.obj [])) = .ok entries) :
    ((contract.below? ["evm", "methodIdentifiers"]).getD .null).orElse (.obj []) =
      .obj (entries.map fun m => (m.1, .str m.2)) := by
  obtain ⟨methods, hmethods, rfl⟩ := Json.get_eq_ok_iff.1 hv
  rw [← mapping_string_eq_ok hentries, Json.below?_of_get? hfound]
  cases found with
  | none =>
    cases hmethods
    rfl
  | some machine =>
    rw [Option.getD_some] at hmethods
    rw [Option.bind_some, Json.below?_of_get? hmethods]
    cases methods <;> rfl

/-- **Every part of a record stands below the entry of its contract.** -/
theorem contractRecord_isRecordOf {name source : String}
    (hbytecode : machinePart contract "bytecode" = .ok bytecode)
    (hdeployed : machinePart contract "deployedBytecode" = .ok deployed) :
    Yields (contractRecord (.str name) (.str source) contract bytecode deployed)
      (·.IsRecordOf name source contract) := by
  rw [contractRecord]
  dsimp only
  refine .bind fun _ hcode => .bind fun _ hdeployedCode => .bind fun _ hmap =>
    .bind fun _ hdeployedMap => .bind fun _ hmachine => .bind fun _ hmethods =>
    .bind fun _ hname => .bind fun _ hsource => .bind fun _ hcode' => .bind fun _ hdeployedCode' =>
    .bind fun _ hmap' => .bind fun _ hdeployedMap' => .bind fun _ hmethods' => .pure ?_
  exact {
    name_eq := (Except.ok.inj hname).symm
    sourcePath_eq := (Except.ok.inj hsource).symm
    bytecode := textBelow_of_machinePart hbytecode hcode hcode'
    deployedBytecode := textBelow_of_machinePart hdeployed hdeployedCode hdeployedCode'
    sourceMap := textBelow_of_machinePart hbytecode hmap hmap'
    deployedSourceMap := textBelow_of_machinePart hdeployed hdeployedMap hdeployedMap'
    methodIdentifiers := methods_of_get hmachine hmethods hmethods' }

end

end ContractAudit.Solidity
