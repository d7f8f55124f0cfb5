/-
  Written forms of floating-point numbers.

  * A `Form` says which numbers are written in positional notation, whether such a number keeps a
    zero after its point, and how many digits an exponent has at least.
  * `Form.show` writes a number with the fewest digits that read back, `general` with at most six
    significant digits.
-/
import ContractAudit.Decimal.Shortest

namespace ContractAudit.Decimal

/-- How a number is written: in positional notation if the exponent of its first digit is at least
`least` and less than `bound`, else with an exponent of at least `exponentDigits` digits. -/
structure Form where
  least : Int
  bound : Int
  exponentDigits : Nat
  keepsPoint : Bool

/-- The exponent of the first digit. -/
def leading (d : Decimal) : Int :=
  (Nat.toDigits 10 d.digits).length - 1 + d.scale

/-- Positional notation. -/
def positional (d : Decimal) (keepsPoint : Bool) : List Char :=
  let ds := Nat.toDigits 10 d.digits
  if 0 ≤ d.scale then
    ds ++ List.replicate d.scale.toNat '0' ++ (if keepsPoint then ['.', '0'] else [])
  else
    let places := (-d.scale).toNat
    let padded := List.replicate (places + 1 - ds.length) '0' ++ ds
    padded.take (padded.length - places) ++ '.' :: padded.drop (padded.length - places)

/-- Scientific notation: the sign of the exponent is always written. -/
def scientific (d : Decimal) (exponentDigits : Nat) : List Char :=
  let es := Nat.toDigits 10 d.leading.natAbs
  let exponent := (if d.leading < 0 then '-' else '+') ::
    List.replicate (exponentDigits - es.length) '0' ++ es
  match Nat.toDigits 10 d.digits with
  | c :: c' :: rest => c :: '.' :: c' :: rest ++ 'e' :: exponent
  | ds => ds ++ 'e' :: exponent

/-- The text of a magnitude. -/
def Form.showDecimal (f : Form) (d : Decimal) : List Char :=
  if d.digits = 0 ∨ (f.least ≤ d.leading ∧ d.leading < f.bound) then positional d f.keepsPoint
  else scientific d f.exponentDigits

/-- The text of a number whose magnitude is written by `digits`. -/
def signed (digits : Float → List Char) (x : Float) : String :=
  let body :=
    if exponentField x = 2047 then
      (if fractionField x = 0 then ['i', 'n', 'f'] else ['n', 'a', 'n'])
    else digits x
  String.ofList (if isNegative x then '-' :: body else body)

/-- A number with the fewest digits that read back. -/
def Form.show (f : Form) (x : Float) : String :=
  signed (f.showDecimal ∘ shortest) x

/-- Messages and service requests: positional from a ten-thousandth on and below ten to the
sixteenth, exponents of two digits or more. -/
def plainForm : Form :=
  { least := -4, bound := 16, exponentDigits := 2, keepsPoint := true }

/-- Reports: positional from a hundred-thousandth on, exponents without padding. -/
def reportForm : Form :=
  { least := -5, bound := 16, exponentDigits := 1, keepsPoint := true }

/-- Durations: six significant digits, no zeros at the end. -/
def generalForm : Form :=
  { least := -4, bound := 6, exponentDigits := 2, keepsPoint := false }

/-- A number with at most six significant digits. -/
def general (x : Float) : String :=
  signed (generalForm.showDecimal ∘ rounded 6) x

end ContractAudit.Decimal
