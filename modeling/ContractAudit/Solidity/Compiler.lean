/-
  Running the compiler.

  * `compilerInput` is the description of the sources and of the wanted output that the compiler
    reads, and `arguments` the command that reads it.
  * `outputOf` is the output in what a run gave back, if it found no errors and some contract.
-/
import ContractAudit.Json.Access
import ContractAudit.Json.Reader
import ContractAudit.Solidity.Error

namespace ContractAudit.Solidity

/-- What a run of the compiler gives back. -/
inductive CompilerRun where
  /-- There is no such command. -/
  | missing
  | finished (exitCode : Int) (output diagnostics : String)

/-- The command line of the compiler. -/
def arguments (command : String) : List String :=
  [command, "--standard-json"]

/-- The entry of a source: a text is wrapped, an object is one already. -/
def sourceEntry (source : Json) : Json :=
  if source.isObject then source else .obj [("content", source)]

/-- What the compiler is asked for: all it knows about contracts, and the syntax trees. -/
def compilerSettings : Json :=
  .obj [
    ("outputSelection", .obj [("*", .obj [("*", .texts ["*"]), ("", .texts ["ast"])])]),
    ("optimizer", .obj [("enabled", .bool true), ("runs", .int 200)])]

/-- The input of the compiler. -/
def compilerInput (sources : Json.Members) : Json :=
  .obj [
    ("language", .str "Solidity"),
    ("sources", .obj (sources.map fun (path, source) => (path, sourceEntry source))),
    ("settings", compilerSettings)]

/-- Whether a problem is an error. -/
def isError (problem : Json) : Except Defect Bool := do
  match ← problem.get "severity" with
  | .str s => pure (s == "error")
  | _ => pure false

/-- The text of a problem. -/
def problemText (problem : Json) : Except Defect Json := do
  let formatted ← problem.get "formattedMessage"
  let plain ← problem.get? "message"
  pure (formatted.orElse (plain.getD (.str "")))

/-- The output, if it tells of no errors and of some contract. -/
def checkedOutput (output : Json) : Except (Fault CompileError) Json := do
  let listed ← output.get "errors"
  let problems ← (listed.orElse (.arr [])).elements
  let errors ← (problems.filterM isError : Except Defect (List Json))
  match errors with
  | [] =>
    let contracts ← output.get "contracts"
    if contracts.isSet then pure output else failWith .noContracts
  | e :: es =>
    let text ← problemText e
    let others ← (es.mapM problemText : Except Defect (List Json))
    let first ← text.asText
    failWith (.rejected first others)

/-- The output of a run of the compiler. -/
def outputOf (command : String) : CompilerRun → Except (Fault CompileError) Json
  | .missing => failWith (.noCompiler command)
  | .finished exitCode output diagnostics =>
    match Json.parse output with
    | .ok v => checkedOutput v
    | .error .malformed => failWith (.noAnswer exitCode diagnostics)
    | .error .tooDeep => throw (.defect .endless)

end ContractAudit.Solidity
