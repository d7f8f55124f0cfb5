/-
  Why a source cannot be compiled.

  * `CompileError.message` is the sentence about an error, and `details` what the compiler said.
-/
import ContractAudit.Json.Literal
import ContractAudit.Path.Tree

namespace ContractAudit.Solidity

/-- Why there is no contract to analyse. -/
inductive CompileError where
  /-- A file that is needed cannot be read. -/
  | unreadable (path : String) (reason : FileError)
  /-- There is no compiler of that name. -/
  | noCompiler (command : String)
  /-- The compiler ended without an answer. -/
  | noAnswer (exitCode : Int) (diagnostics : String)
  /-- The compiler found errors. -/
  | rejected (first : String) (others : List Json)
  /-- The compiler found no contracts at all. -/
  | noContracts
  /-- There is no contract in the main source. -/
  | noContractsIn (source : Json)
  /-- There is no contract of that name. -/
  | noContractNamed (name source : Json)
  /-- The contract has no code. -/
  | noBytecode
  /-- The code is no code. -/
  | malformedBytecode

namespace CompileError

/-- The form of bytecode, as messages show it. -/
def bytecodePattern : String := "^(0x)?([0-9a-fA-F]\x7b2\x7d)+$"

/-- The message of an error. -/
def message : CompileError → String
  | unreadable path reason => "Unable to read source " ++ path ++ ": " ++ reason.message path
  | noCompiler command => "Solidity compiler not found: " ++ command
  | noAnswer exitCode _ => "Unable to compile: solc exited with " ++ Text.showInt exitCode
  | rejected first _ => "Unable to compile: " ++ Text.trimmed first
  | noContracts => "No contracts detected after compiling"
  | noContractsIn source => "No contracts found in " ++ source.display
  | noContractNamed name source =>
    "No contracts found named " ++ name.literal ++ " in " ++ source.display
  | noBytecode => "Compiling the Solidity code did not return any bytecode. " ++
      "Note that abstract contracts cannot be analyzed."
  | malformedBytecode =>
    "Generated bytecode fails to match the required pattern: " ++ bytecodePattern

/-- What the compiler said, message by message. -/
def details : CompileError → List Json
  | noAnswer _ diagnostics => if diagnostics = "" then [] else [.str (Text.trimmed diagnostics)]
  | rejected first others => .str first :: others
  | _ => []

end CompileError

end ContractAudit.Solidity
