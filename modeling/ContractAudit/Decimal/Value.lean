/-
  The floating-point number of a decimal.

  * `toFloat` rounds `digits · 10 ^ scale` to the nearest binary number; a decimal beyond the range
    becomes infinite or zero before any power of ten is taken.
-/
import ContractAudit.Decimal.Shortest

namespace ContractAudit.Decimal

/-- The floating-point number nearest to a decimal. -/
def toFloat (d : Decimal) : Float :=
  let size := (Nat.toDigits 10 d.digits).length + d.scale
  if d.digits = 0 ∨ size < -400 then 0.0
  else if 400 < size then 1.0 / 0.0
  else if 0 ≤ d.scale then Float.ofScientific d.digits false d.scale.toNat
  else Float.ofScientific d.digits true (-d.scale).toNat

end ContractAudit.Decimal
