/-
  The state of an analysis job, as queries of its status show it.

  * A job is pending until it has finished or failed; `Status.ofService` reads the words of the
    service, of which every other one means pending.
  * `State` is the last observation of a job and what it took to get there.
-/
import ContractAudit.Text.Blank
import ContractAudit.Text.Lower

namespace ContractAudit.Job

/-- How far a job has come. -/
inductive Status where
  | pending
  | error
  | finished
deriving DecidableEq, Repr, Inhabited

namespace Status

/-- The name of a status. -/
def name : Status → String
  | pending => "pending"
  | error => "error"
  | finished => "finished"

/-- Whether the status is the last one of a job. -/
def isTerminal : Status → Bool
  | pending => false
  | error | finished => true

/-- The status that the service calls by a word, in any case and with blanks around it. -/
def ofService (word : String) : Status :=
  match String.ofList (Text.lowerChars (Text.trim word.toList)) with
  | "finished" => finished
  | "error" => error
  | _ => pending

end Status

/-- What one query shows: the status, and the word of the service for it if it is known. -/
structure Observation where
  status : Status := .pending
  vendorStatus : Option String := none
deriving DecidableEq, Repr, Inhabited

/-- The last observation of a job, the number of queries up to it and the time they took. -/
structure State (τ : Type) where
  status : Status
  attemptsMade : Nat
  elapsedTime : τ
  vendorStatus : Option String

/-- Whether the job has come to its end. -/
def State.isTerminal {τ : Type} (s : State τ) : Bool :=
  s.status.isTerminal

end ContractAudit.Job
