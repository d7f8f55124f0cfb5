/-
  Records in JSON.

  * A record is read from an object member by member: a reader per kind of field, and `optional` or
    `required` for a member that may or may not be missing.  Members without a field are ignored.
  * Every reader fails with `Defect.invalidRecord`.
-/
import ContractAudit.Decimal.Shortest
import ContractAudit.Defect
import ContractAudit.Text.Numeral

namespace ContractAudit.Json

/-- A reader of a field. -/
abbrev Field (α : Type) := Json → Except Defect α

namespace Field

/-- A text. -/
def string : Field String
  | str s => .ok s
  | _ => .error .invalidRecord

/-- A text or null. -/
def nullable {α : Type} (f : Field α) : Field (Option α)
  | null => .ok none
  | v => (f v).map some

/-- An array of fields. -/
def list {α : Type} (f : Field α) : Field (List α)
  | arr xs => xs.mapM f
  | _ => .error .invalidRecord

/-- The members of an object. -/
def object : Field Members
  | obj ms => .ok ms
  | _ => .error .invalidRecord

/-- An object whose members are all read by `f`. -/
def mapping {α : Type} (f : Field α) : Field (List (String × α))
  | obj ms => ms.mapM fun (k, v) => (f v).map (k, ·)
  | _ => .error .invalidRecord

/-- The integer that a floating-point number is, if it is one. -/
def wholeFloat? (x : Float) : Option Int :=
  let d := Decimal.binaryRatio (Decimal.parts x).1 (Decimal.parts x).2
  if Decimal.exponentField x = 2047 ∨ d.1 % d.2 ≠ 0 then none
  else some (if Decimal.isNegative x then -Int.ofNat (d.1 / d.2) else Int.ofNat (d.1 / d.2))

/-- The bound that a number written with a fraction or an exponent keeps below. -/
def floatBound : Int := 9223372036854775808

/-- A whole number: an integer, a number without a fraction below `floatBound`, a truth value or a
numeral. -/
def integer : Field Int
  | int n => .ok n
  | bool b => .ok (if b then 1 else 0)
  | float x => match wholeFloat? x with
    | some n => if -floatBound < n && n < floatBound then .ok n else .error .invalidRecord
    | none => .error .invalidRecord
  | str s => match Text.readWhole? s.toList with
    | some n => .ok n
    | none => .error .invalidRecord
  | _ => .error .invalidRecord

/-- A whole number that is not negative. -/
def natural : Field Nat := fun v => do
  let n ← integer v
  if n < 0 then .error .invalidRecord else .ok n.toNat

end Field

/-- The field of a member, with a value for a missing one. -/
def optional {α : Type} (ms : Members) (key : String) (f : Field α) (missing : α) :
    Except Defect α :=
  match Keyed.lookup? key ms with
  | some v => f v
  | none => .ok missing

/-- The field of a member that has to be there. -/
def required {α : Type} (ms : Members) (key : String) (f : Field α) : Except Defect α :=
  match Keyed.lookup? key ms with
  | some v => f v
  | none => .error .invalidRecord

end ContractAudit.Json
