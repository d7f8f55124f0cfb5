/-
  Exact values of numbers.

  * A `Ratio` is a number as the ratio of its parts; the ratio of a positive or negative number and
    zero is infinite, and that of zero and zero is no number.
  * `Ratio.less`, `Ratio.atMost` and `Ratio.same` compare two numbers exactly, whatever they were
    written as.  No comparison holds of what is no number.
-/
import ContractAudit.Decimal.Shortest

namespace ContractAudit

/-- The exact value of a number. -/
structure Ratio where
  num : Int
  den : Nat
deriving DecidableEq, Repr

namespace Ratio

/-- The value of an integer. -/
def ofInt (n : Int) : Ratio :=
  ⟨n, 1⟩

/-- The value of a floating-point number. -/
def ofFloat (x : Float) : Ratio :=
  let sign : Int := if Decimal.isNegative x then -1 else 1
  if Decimal.exponentField x = 2047 then
    (if Decimal.fractionField x = 0 then ⟨sign, 0⟩ else ⟨0, 0⟩)
  else
    let r := Decimal.binaryRatio (Decimal.parts x).1 (Decimal.parts x).2
    ⟨sign * r.1, r.2⟩

/-- Whether the ratio is a number. -/
def isNumber (a : Ratio) : Bool :=
  a.num != 0 || a.den != 0

/-- Whether the first number is less. -/
def less (a b : Ratio) : Bool :=
  a.isNumber && b.isNumber &&
    if a.den = 0 ∧ b.den = 0 then a.num < b.num else a.num * b.den < b.num * a.den

/-- Whether the first number is not greater. -/
def atMost (a b : Ratio) : Bool :=
  a.isNumber && b.isNumber && !b.less a

/-- Whether the numbers are equal. -/
def same (a b : Ratio) : Bool :=
  a.atMost b && b.atMost a

end Ratio

end ContractAudit
