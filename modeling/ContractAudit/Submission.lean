/-
  What is submitted for analysis.

  * `sourceList` is the list of source paths that the file indexes of source maps count through.
  * `requestData` gathers bytecode, source maps, syntax trees and texts of a contract, and
    `submission` wraps them for the service.
-/
import ContractAudit.Json.Access
import ContractAudit.Json.Literal
import ContractAudit.Json.Order
import ContractAudit.Solidity.Contract

namespace ContractAudit

/-- The sources in the output of the compiler. -/
def compiledSources (output : Json) : Except Defect Json := do
  let v ← output.get "sources"
  pure (v.orElse (.obj []))

/-- The source paths in the output of the compiler, in the order of their numbers. -/
def sourceList (output : Json) : Except Defect (List String) := do
  let sources ← compiledSources output
  let pairs ← (← sources.asMembers).mapM fun (path, entry) => do
    let number ← entry.get? "id"
    pure (number.getD (.int 0), path)
  Json.sortBy pairs

/-- The text of a source that is a text or an object with a member `content`. -/
def contentOf? : Json → Option String
  | .str s => some s
  | .obj ms =>
    match Keyed.lookup? "content" ms with
    | some (.str s) => some s
    | _ => none
  | _ => none

/-- What is told about one source: its syntax tree and its text, as far as they are known. -/
def requestSource (compiled sources path : Json) : Except Defect Json := do
  let entry ← compiled.at? path
  let tree ← ((entry.getD .null).orElse (.obj [])).get "ast"
  let text := (← sources.at? path).bind contentOf?
  pure (.obj ((match tree with | .null => [] | t => [("ast", t)]) ++
    (match text with | some s => [("source", .str s)] | none => [])))

/-- The data of an analysis request. -/
structure RequestData where
  contract : Solidity.Contract
  /-- The path of the file that is analysed. -/
  mainSource : Json
  /-- Paths, in the order in which source maps count them. -/
  sourceList : List Json
  sources : Json.Members
  mode : Json

/-- Gathers the data of a request. The source list is that of the output unless another is given;
a list that is null counts as not given. The main source is the file of the contract unless another
is given. -/
def requestData (contract : Solidity.Contract) (output sources mode listed : Json)
    (mainSource : Json := .str contract.sourcePath) : Except Defect RequestData := do
  let sourceList ← match listed with
    | .null => do pure ((← sourceList output).map Json.str)
    | l => l.elements
  let compiled ← compiledSources output
  let entries ← (Json.distinct sourceList).mapM fun path => do
    let entry ← requestSource compiled sources path
    pure (path.keyText, entry)
  pure { contract, mainSource, sourceList, sources := entries, mode }

namespace RequestData

/-- The paths of the sources that the data tells about. -/
def paths (d : RequestData) : List Json :=
  Json.distinct d.sourceList

/-- The members of the data, in order. -/
def toJson (d : RequestData) : Json :=
  .obj [
    ("contractName", .str d.contract.name),
    ("bytecode", .str (Solidity.linked d.contract.bytecode)),
    ("sourceMap", .str d.contract.sourceMap),
    ("deployedBytecode", .str (Solidity.linked d.contract.deployedBytecode)),
    ("deployedSourceMap", .str d.contract.deployedSourceMap),
    ("mainSource", d.mainSource),
    ("sourceList", .arr d.sourceList),
    ("sources", .obj d.sources),
    ("analysisMode", d.mode)]

end RequestData

/-- The body of a submission. -/
def submission (data : RequestData) (clientName : Json) (withoutCache : Json) : Json :=
  .obj [("clientToolName", clientName), ("noCacheLookup", withoutCache), ("data", data.toJson)]

end ContractAudit
