/-
  Compiled contracts.

  * `selectContract` takes the contract of a name from the output of the compiler or, without a
    name, the last one with the longest bytecode: a contract that inherits from others contains
    their code.
  * Its bytecode, with the placeholders of libraries replaced, is an even and positive number of
    hexadecimal digits, with or without `0x` in front (`isBytecode`).
-/
import ContractAudit.Json.Access
import ContractAudit.Json.Record
import ContractAudit.Solidity.Error
import ContractAudit.Solidity.Link
import ContractAudit.Text.Hex

namespace ContractAudit.Solidity

/-- What a request tells about a contract. -/
structure Contract where
  name : String
  sourcePath : String
  bytecode : String
  deployedBytecode : String := ""
  sourceMap : String := ""
  deployedSourceMap : String := ""
  methodIdentifiers : List (String × String) := []

/-- An even number of hexadecimal digits; one line feed may follow. -/
def isHexPairs : List Char → Bool
  | [] => true
  | [c] => c == '\n'
  | a :: b :: rest =>
    (Text.hexDigit? a).isSome && (Text.hexDigit? b).isSome && isHexPairs rest

/-- Hexadecimal pairs, at least one. -/
def isSomeHexPairs (s : List Char) : Bool :=
  isHexPairs s && 2 ≤ s.length

/-- Whether the characters are bytecode. -/
def isBytecode : List Char → Bool
  | '0' :: 'x' :: rest => isSomeHexPairs rest
  | s => isSomeHexPairs s

/-- A part of the machine code section of a contract. -/
def machinePart (contract : Json) (part : String) : Except Defect Json := do
  let machine ← contract.get "evm"
  let v ← (machine.orElse (.obj [])).get part
  pure (v.orElse (.obj []))

/-- The bytecode of a contract, as it stands in the output. -/
def objectCode (contract : Json) : Except Defect Json := do
  let bytecode ← machinePart contract "bytecode"
  let code ← bytecode.get? "object"
  pure (code.getD (.str ""))

/-- The first of the elements with the greatest size. -/
def largest? {α : Type} : List (α × Nat) → Option α
  | [] => none
  | (x, n) :: rest => some (go x n rest)
where
  /-- The first of the greatest, `x` of size `n` coming before the others. -/
  go (x : α) (n : Nat) : List (α × Nat) → α
    | [] => x
    | (y, m) :: rest => if n < m then go y m rest else go x n rest

/-- The name of the contract that is taken when none is named. -/
def defaultName (contracts : Json) : Except Defect Json := do
  let names ← contracts.elements
  let sized ← names.reverse.mapM fun name => do
    let contract ← contracts.select name
    let code ← objectCode contract
    pure (name, ← code.size)
  pure ((largest? sized).getD .null)

/-- The contract record of a name. -/
def contractRecord (name source contract bytecode deployed : Json) : Except Defect Contract := do
  let member (v : Json) (key : String) := (v.get? key).map (·.getD (.str ""))
  let code ← member bytecode "object"
  let deployedCode ← member deployed "object"
  let sourceMap ← member bytecode "sourceMap"
  let deployedSourceMap ← member deployed "sourceMap"
  let methods ← ((← contract.get? "evm").getD (.obj [])).get "methodIdentifiers"
  pure {
    name := ← Json.Field.string name
    sourcePath := ← Json.Field.string source
    bytecode := ← Json.Field.string code
    deployedBytecode := ← Json.Field.string deployedCode
    sourceMap := ← Json.Field.string sourceMap
    deployedSourceMap := ← Json.Field.string deployedSourceMap
    methodIdentifiers := ← Json.Field.mapping .string (methods.orElse (.obj [])) }

/-- The contract to analyse in the output of the compiler: that of a name in the file `source`, or
the default one if the name is null. -/
def selectContract (output source name : Json) : Except (Fault CompileError) Contract := do
  let files ← output.get "contracts"
  let contracts := ((← (files.orElse (.obj [])).at? source).getD .null).orElse (.obj [])
  if !contracts.isSet then failWith (.noContractsIn source)
  let name ← match name with
    | .null => (defaultName contracts : Except Defect Json)
    | n => if ← contracts.holds n then pure n else failWith (.noContractNamed n source)
  let contract ← contracts.select name
  let bytecode ← machinePart contract "bytecode"
  let deployed ← machinePart contract "deployedBytecode"
  match ← bytecode.get "object" with
  | .str code =>
    if code = "" then failWith .noBytecode
    if !isBytecode (linkedChars code.toList) then failWith .malformedBytecode
    contractRecord name source contract bytecode deployed
  | v => if v.isSet then throw (.defect .wrongKind) else failWith .noBytecode

end ContractAudit.Solidity
