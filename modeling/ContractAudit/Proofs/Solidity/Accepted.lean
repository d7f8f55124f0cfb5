/-
  What the compiler has to give.

  * `outputOf_yields`: an output is only taken from an answer that lists no error;
  * `selectContract_yields`: a contract is only taken with bytecode, which is a positive number of
    bytes.
-/
import ContractAudit.Proofs.Answers
import ContractAudit.Solidity.Compiler
import ContractAudit.Solidity.Contract

namespace ContractAudit.Solidity

/-- The problems that an output lists, of which none is an error. -/
def ListsNoError (output : Json) : Prop :=
  ∃ listed problems, output.get "errors" = .ok listed ∧
    (listed.orElse (.arr [])).elements = .ok problems ∧
    ∀ problem ∈ problems, isError problem = .ok false

/-- A contract whose bytecode is code. -/
def Contract.HasBytecode (c : Contract) : Prop :=
  c.bytecode ≠ "" ∧ isBytecode (linkedChars c.bytecode.toList) = true

theorem checkedOutput_yields (v : Json) :
    Yields (checkedOutput v) fun output => output = v ∧ ListsNoError output := by
  rw [checkedOutput]
  refine .bind fun listed hlisted => .bind fun problems hproblems => .bind fun errors herrors => ?_
  split
  · refine .bind fun contracts _ => ?_
    split
    · exact .pure ⟨rfl, listed, problems, liftM_eq_ok.1 hlisted, liftM_eq_ok.1 hproblems,
        filterM_eq_ok_nil (liftM_eq_ok.1 herrors)⟩
    · exact .error
  · exact .bind fun _ _ => .bind fun _ _ => .bind fun _ _ => .error

/-- **An output is only taken from an answer that lists no error.** -/
theorem outputOf_yields (command : String) (run : CompilerRun) :
    Yields (outputOf command run) fun output =>
      (∃ exitCode text diagnostics, run = .finished exitCode text diagnostics ∧
        Json.parse? text = some output) ∧ ListsNoError output := by
  intro output houtput
  cases run with
  | missing => cases houtput
  | finished exitCode text diagnostics =>
    rw [outputOf] at houtput
    split at houtput
    · next v hparse =>
      obtain ⟨rfl, hnone⟩ := checkedOutput_yields v output houtput
      exact ⟨⟨exitCode, text, diagnostics, rfl, congrArg Except.toOption hparse⟩, hnone⟩
    · cases houtput
    · cases houtput

/-- The record of a contract has the bytecode that the output has. -/
theorem contractRecord_yields {name source contract bytecode deployed : Json} {code : String}
    (h : bytecode.get "object" = .ok (.str code)) :
    Yields (contractRecord name source contract bytecode deployed) (·.bytecode = code) := by
  have hmember : (bytecode.get? "object").map (·.getD (.str "")) = .ok (.str code) := by
    rw [Json.get] at h
    cases hget : bytecode.get? "object" with
    | error d => rw [hget] at h; cases h
    | ok v =>
      rw [hget] at h
      cases v with
      | none => cases h
      | some v => exact h
  rw [contractRecord]
  dsimp only
  refine .bind fun own hown => ?_
  obtain rfl : own = .str code := by
    rw [hmember] at hown
    exact (Except.ok.inj hown).symm
  refine .bind fun _ _ => .bind fun _ _ => .bind fun _ _ => .bind fun _ _ => .bind fun _ _ =>
    .bind fun _ _ => .bind fun _ _ => .bind fun s hs => .bind fun _ _ => .bind fun _ _ =>
    .bind fun _ _ => .bind fun _ _ => .pure ?_
  exact (Except.ok.inj hs).symm

/-- **A contract is only taken with bytecode.** -/
theorem selectContract_yields (output source name : Json) :
    Yields (selectContract output source name) Contract.HasBytecode := by
  rw [selectContract]
  refine .bind fun files _ => .bind fun entry _ => ?_
  -- what is done with the contract of a name, and before that with the name
  extract_lets contracts taken named
  have htaken : ∀ name, Yields (taken name) Contract.HasBytecode := by
    intro name
    dsimp only [taken]
    refine .bind fun contract _ => .bind fun bytecode _ => .bind fun deployed _ =>
      .bind fun object hobject => ?_
    split
    · next code =>
      split
      · exact .error
      · next hne =>
        split
        · exact .error
        · next hcode =>
          intro c hc
          obtain rfl := contractRecord_yields (liftM_eq_ok.1 hobject) c (liftM_eq_ok.1 hc)
          exact ⟨hne, by simpa using hcode⟩
    · split
      · exact .error
      · exact .error
  have hnamed : ∀ u, Yields (named u) Contract.HasBytecode := by
    intro u
    dsimp only [named]
    split
    · exact .bind fun name _ => htaken name
    · refine .bind fun held _ => ?_
      split
      · exact .bind fun name _ => htaken name
      · exact .bind fun name _ => htaken name
  split
  · exact .bind fun u _ => hnamed u
  · exact hnamed ()

end ContractAudit.Solidity
