/-
  Test cases: the accounts and transactions by which the service triggered a finding.

  * Their shape is the service's own, so each of these texts may fail with a `Defect`.
  * `role` guesses who an account belongs to from the first digits of its address.
-/
import ContractAudit.Json.Access
import ContractAudit.Json.Literal
import ContractAudit.Json.Writer
import ContractAudit.Text.Line
import ContractAudit.Text.Lower

namespace ContractAudit.TestCase

/-- The addresses of the service's accounts start with fixed digits, in either case. -/
def role (address : String) : String :=
  match String.ofList ((Text.lowerChars address.toList).take 10) with
  | "0xaffeaffe" => "CREATOR"
  | "0xdeadbeef" => "ATTACKER"
  | _ => "USER"

/-- A value in a listing: numbers and texts as they are, all else in JSON. -/
def valueText : Json → String
  | .str s => s
  | .int n => Text.showInt n
  | .float x => Decimal.plainForm.show x
  | v => v.write Json.requestLayout

/-- Lines one below the other, without the blanks at the end. -/
def block (lines : List String) : String :=
  String.ofList (Text.trimRight (Text.joined "\n" lines).toList)

/-- The lines of one account. -/
def accountLines (address : String) (data : Json) : Except Defect (List String) := do
  let data := data.orElse (.obj [])
  let lines ← ["nonce", "balance", "storage"].mapM fun key => do
    let v ← data.get key
    pure ("    " ++ key ++ ": " ++ valueText v)
  pure (("Account for " ++ role address ++ " at [ " ++ address ++ " ]:") :: lines ++ [""])

/-- The accounts before the first transaction. -/
def initialState (state : Json) : Except Defect String := do
  let accounts ← state.get "accounts"
  let members ← (accounts.orElse (.obj [])).asMembers
  let lines ← members.mapM fun (address, data) => accountLines address data
  pure (block lines.flatten)

/-- The lines of one transaction. -/
def stepLines (index : Nat) (step : Json) : Except Defect (List String) := do
  let origin := ((← step.get? "origin").getD (.str "")).display
  let data ← match ← step.get "address" with
    | .str "" => pure "[CONTRACT CREATION]"
    | _ => valueText <$> step.get "input"
  let amount ← step.get "value"
  pure [
    "Tx #" ++ Text.showInt index ++ ":",
    "    Origin: " ++ origin ++ " (" ++ role origin ++ ")",
    "    Data: " ++ data,
    "    Value: " ++ valueText amount,
    ""]

/-- The transactions. -/
def steps (v : Json) : Except Defect String := do
  let elements ← v.elements
  let lines ← (elements.zip (List.range elements.length)).mapM fun (s, i) => stepLines i s
  pure (block lines.flatten)

/-- The accounts and the transactions of a test case. -/
def text (testCase : Json) : Except Defect String := do
  let state ← testCase.get "initialState"
  let sequence ← testCase.get "steps"
  let first ← if state.isSet then do
      let t ← initialState state
      pure ["Initial State:", "", t]
    else pure []
  let second ← if sequence.isSet then do
      let t ← steps sequence
      pure ((if state.isSet then [""] else []) ++ ["Transaction Sequence:", "", t])
    else pure []
  pure (Text.joined "\n" (first ++ second))

end ContractAudit.TestCase
