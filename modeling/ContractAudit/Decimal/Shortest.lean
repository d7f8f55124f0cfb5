/-
  Decimals of binary floating-point numbers.

  * A finite number is `m · 2 ^ q`; `parts` reads `m` and `q` off its bits.
  * `shortest` is the decimal with the fewest digits among those that round to the number, and of
    these the nearest one, an even last digit breaking a tie.
  * `rounded n` is the nearest decimal of `n` significant digits, a tie going to the even digit.

  Both work in exact arithmetic on the ratio of two natural numbers.
-/

namespace ContractAudit

/-- The number `digits · 10 ^ scale`. -/
structure Decimal where
  digits : Nat
  scale : Int
deriving DecidableEq, Repr

namespace Decimal

/-- Whether the sign bit of a number is set. -/
def isNegative (x : Float) : Bool :=
  x.toBits >>> 63 == 1

/-- The leading bit of a number, two to the fifty-second, which is not stored. -/
def hiddenBit : Nat := 4503599627370496

/-- The exponent field of a number: 2047 marks infinities and what is no number. -/
def exponentField (x : Float) : Nat :=
  x.toBits.toNat / hiddenBit % 2048

/-- The fraction field of a number. -/
def fractionField (x : Float) : Nat :=
  x.toBits.toNat % hiddenBit

/-- `m` and `q` such that the magnitude of a finite number is `m · 2 ^ q`. -/
def parts (x : Float) : Nat × Int :=
  if exponentField x = 0 then (fractionField x, -1074)
  else (hiddenBit + fractionField x, exponentField x - 1075)

/-- The number `m · 2 ^ q` as a ratio. -/
def binaryRatio (m : Nat) (q : Int) : Nat × Nat :=
  if 0 ≤ q then (m * Nat.pow 2 q.toNat, 1) else (m, Nat.pow 2 (-q).toNat)

/-- The `k` with `10 ^ (k - 1) ≤ num / den < 10 ^ k`, for a positive ratio. -/
def magnitude (num den : Nat) : Int :=
  if den ≤ num then (Nat.toDigits 10 (num / den)).length
  else 1 - ((Nat.toDigits 10 ((den - 1) / num)).length : Int)

/-- The ratio `num / den` in units of `10 ^ scale`. -/
def inUnits (num den : Nat) (scale : Int) : Nat × Nat :=
  if 0 ≤ scale then (num, den * Nat.pow 10 scale.toNat) else (num * Nat.pow 10 (-scale).toNat, den)

/-- The natural number nearest to `num / den`, an even one at a tie. -/
def nearest (num den : Nat) : Nat :=
  let n := num / den
  let twice := 2 * (num % den)
  if den < twice || (twice == den && n % 2 == 1) then n + 1 else n

/-- The decimal without zeros at the end of its digits; `fuel` bounds their number. -/
def dropZeros (fuel : Nat) (d : Decimal) : Decimal :=
  match fuel with
  | 0 => d
  | fuel + 1 =>
    if d.digits ≠ 0 ∧ d.digits % 10 = 0 then dropZeros fuel ⟨d.digits / 10, d.scale + 1⟩ else d

/-- The nearest decimal of `n` significant digits to a positive ratio, without trailing zeros. -/
def roundedRatio (n num den : Nat) : Decimal :=
  let scale := magnitude num den - n
  let (a, b) := inUnits num den scale
  dropZeros (n + 1) ⟨nearest a b, scale⟩

/-- The numbers between `low / den` and `high / den` that round to `mid / den`, the ends counting
if `closed`. -/
structure Interval where
  low : Nat
  mid : Nat
  high : Nat
  den : Nat
  closed : Bool

/-- The decimals that round to `m · 2 ^ q`. Below a power of two the gap is half as wide. -/
def interval (m : Nat) (q : Int) : Interval :=
  let (unit, den) := binaryRatio 1 (q - 2)
  let below := if m = hiddenBit ∧ q ≠ -1074 then 1 else 2
  { low := (4 * m - below) * unit, mid := 4 * m * unit, high := (4 * m + 2) * unit, den := den,
    closed := m % 2 == 0 }

/-- Whether `n · 10 ^ scale` lies in the interval. -/
def Interval.holds (i : Interval) (n : Nat) (scale : Int) : Bool :=
  let (low, den) := inUnits i.low i.den scale
  let (high, _) := inUnits i.high i.den scale
  if i.closed then low ≤ n * den && n * den ≤ high else low < n * den && n * den < high

/-- The nearest point of the grid of `10 ^ scale` that lies in the interval. -/
def Interval.onGrid? (i : Interval) (scale : Int) : Option Nat :=
  let (mid, den) := inUnits i.mid i.den scale
  let near := nearest mid den
  if i.holds near scale then some near
  else
    let other := if near * den ≤ mid then near + 1 else near - 1
    if i.holds other scale then some other else none

/-- The first grid, from `n` digits on, with a point in the interval. -/
def Interval.coarsest (i : Interval) (size : Int) (n fuel : Nat) : Decimal :=
  match fuel with
  | 0 => ⟨0, 0⟩
  | fuel + 1 =>
    match i.onGrid? (size - n) with
    | some digits => dropZeros (n + 1) ⟨digits, size - n⟩
    | none => i.coarsest size (n + 1) fuel

/-- The decimal of fewest digits that rounds to the magnitude of a finite number; seventeen digits
are always enough. -/
def shortest (x : Float) : Decimal :=
  let (m, q) := parts x
  if m = 0 then ⟨0, 0⟩
  else
    let i := interval m q
    i.coarsest (magnitude i.mid i.den) 1 17

/-- The decimal of at most `n` significant digits nearest to the magnitude of a finite number. -/
def rounded (n : Nat) (x : Float) : Decimal :=
  let (m, q) := parts x
  if m = 0 then ⟨0, 0⟩
  else
    let (num, den) := binaryRatio m q
    roundedRatio n num den

end Decimal

end ContractAudit
