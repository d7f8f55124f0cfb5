/-
  Times in seconds.

  * A `Time` is a whole number or a floating-point number.  Whole numbers are added and subtracted
    exactly; a floating-point number on either side makes the result one.
  * Any two times are compared by their exact values.  A floating-point number that is no number
    (`Time.IsNumber`) is neither shorter than a time nor longer nor as long.
  * `Time.float` is a time as a floating-point number, unless it is beyond their range.
-/
import ContractAudit.Decimal.Ratio
import ContractAudit.Defect

namespace ContractAudit.Job

/-- A time in seconds. -/
inductive Time where
  | whole (n : Int)
  | real (x : Float)

namespace Time

/-- The nearest floating-point number. -/
def toFloat : Time → Float
  | whole n => Float.ofInt n
  | real x => x

/-- The nearest floating-point number, which has to be finite for a whole number. -/
def float : Time → Except Defect Float
  | whole n => if (Float.ofInt n).isInf then .error .overflow else .ok (Float.ofInt n)
  | real x => .ok x

/-- The exact value. -/
def ratio : Time → Ratio
  | whole n => .ofInt n
  | real x => .ofFloat x

/-- Whether the time is a number. -/
def IsNumber (t : Time) : Prop :=
  t.ratio.isNumber = true

/-- Whether the first time is shorter. -/
def less : Time → Time → Bool
  | whole m, whole n => m < n
  | real x, real y => x < y
  | a, b => a.ratio.less b.ratio

/-- Whether the first time is not longer. -/
def atMost : Time → Time → Bool
  | whole m, whole n => m ≤ n
  | real x, real y => x ≤ y
  | a, b => a.ratio.atMost b.ratio

instance : OfNat Time 0 := ⟨whole 0⟩

instance : Add Time where
  add
    | whole m, whole n => whole (m + n)
    | a, b => real (a.toFloat + b.toFloat)

instance : Sub Time where
  sub
    | whole m, whole n => whole (m - n)
    | a, b => real (a.toFloat - b.toFloat)

instance : LT Time := ⟨fun a b => a.less b = true⟩

instance : LE Time := ⟨fun a b => a.atMost b = true⟩

instance : DecidableLT Time := fun a b => inferInstanceAs (Decidable (a.less b = true))

instance : DecidableLE Time := fun a b => inferInstanceAs (Decidable (a.atMost b = true))

/-- The difference of two times, of which none may be out of range if the other is a floating-point
number. -/
def minus : Time → Time → Except Defect Time
  | whole m, whole n => .ok (whole (m - n))
  | a, b => do pure (real ((← a.float) - (← b.float)))

/-- The quotient of two times. No time over a whole number is none, however large that is. -/
def dividedBy (a b : Time) : Except Defect Float := do
  match a, b with
  | whole 0, whole n => if n = 0 then throw .divisionByZero else pure 0
  | a, b =>
    let y ← b.float
    if y == 0 then throw .divisionByZero
    pure ((← a.float) / y)

end Time

end ContractAudit.Job
