/-
  Failures that no rule of the program provides for.

  A `Defect` arises where a value from outside has a shape that nobody promised: it is the failure
  of the operation that was tried on it, and it ends the run without a message of the program's
  own.  A `Fault` is a defect or an error that the operation does provide for.

  How deep calls may nest is counted where a text is read as JSON and where a report is written in
  JSON.  All other operations follow a value to any depth.
-/
import ContractAudit.Json.Basic

namespace ContractAudit

/-- Why an operation on a value of unexpected shape failed. -/
inductive Defect where
  /-- A member or a text operation was asked of a value that has none. -/
  | noMember
  /-- The operation does not take a value of this kind. -/
  | wrongKind
  /-- A record was built from a value that does not fit its field. -/
  | invalidRecord
  /-- A number outside the domain of the operation, or a text that no file can be named by. -/
  | outOfDomain
  /-- A position beyond the end of a list. -/
  | noElement
  /-- A key that an object does not have. -/
  | noKey
  /-- A search that did not come to an end, or a value nested deeper than can be followed. -/
  | endless
  /-- Division by zero. -/
  | divisionByZero
  /-- A result beyond the range of floating-point numbers. -/
  | overflow
  /-- Bytes that are no text. -/
  | undecodable
  /-- The file system refused to look a name up. -/
  | unsearchable
  /-- Console markup that closes a tag that is not open. -/
  | unbalancedMarkup
  /-- A style with a colour of which a component is no numeral. -/
  | badColour
  /-- Console markup with a handler whose parameters are no literal. -/
  | badHandler
  /-- An issue report that is neither a list nor an object. -/
  | unexpectedReport (payload : Json)
  /-- A negative duration. -/
  | negativeTime
  /-- A negative number of attempts. -/
  | negativeAttempts
deriving Inhabited

/-- Why an operation with errors of its own failed: by one of them, or by a defect. -/
inductive Fault (ε : Type) where
  | error (e : ε)
  | defect (d : Defect)
deriving Inhabited

/-- An operation that can only fail by a defect is part of any other one. -/
instance {ε : Type} : MonadLift (Except Defect) (Except (Fault ε)) where
  monadLift x := x.mapError .defect

/-- Ends an operation with an error of its own. -/
def failWith {ε α : Type} (e : ε) : Except (Fault ε) α :=
  .error (.error e)

/-! Steps of an operation that can fail: an answer is handed on and a failure ends it. -/

section
variable {ε α β : Type}

@[simp] theorem ok_bind (a : α) (f : α → Except ε β) : (Except.ok a >>= f) = f a := rfl

@[simp] theorem error_bind (e : ε) (f : α → Except ε β) : (Except.error e >>= f) = .error e := rfl

@[simp] theorem liftM_ok (a : α) :
    (liftM (Except.ok a : Except Defect α) : Except (Fault ε) α) = .ok a := rfl

@[simp] theorem liftM_error (d : Defect) :
    (liftM (Except.error d : Except Defect α) : Except (Fault ε) α) = .error (.defect d) := rfl

@[simp] theorem failWith_bind (e : ε) (f : α → Except (Fault ε) β) :
    (failWith e >>= f) = .error (.error e) := rfl

end

end ContractAudit
