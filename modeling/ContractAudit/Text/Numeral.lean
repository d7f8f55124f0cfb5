/-
  Numerals: decimal digits of every script, and the integers that they write.

  * `digitValue?` is the value of a decimal digit (Unicode 14: the general category Nd);
  * `readInt?` reads a numeral: blanks around it, one sign, digits, single underscores between
    digits, and at most `maxDigits` digits.  It is exact on the plain form: an integer within the
    limit is read back from `showInt`;
  * `readWhole?` reads a numeral of ASCII digits that may end with a point and zeros; zeros that
    lead it do not count as digits, nor do underscores among them;
  * `fitsNumeral` tells which integers have a numeral within the limit.
-/
import ContractAudit.Text.Blank

namespace ContractAudit.Text

/-- The digits zero; the other nine digits of a script follow its zero. -/
def zeroDigits : List Nat := [
    48, 1632, 1776, 1984, 2406, 2534, 2662, 2790, 2918, 3046, 3174, 3302, 3430, 3558, 3664, 3792,
    3872, 4160, 4240, 6112, 6160, 6470, 6608, 6784, 6800, 6992, 7088, 7232, 7248, 42528, 43216,
    43264, 43472, 43504, 43600, 44016, 65296, 66720, 68912, 69734, 69872, 69942, 70096, 70384,
    70736, 70864, 71248, 71360, 71472, 71904, 72016, 72784, 73040, 73120, 92768, 92864, 93008,
    120782, 120792, 120802, 120812, 120822, 123200, 123632, 125264, 130032]

/-- The value of a decimal digit. -/
def digitValue? (c : Char) : Option Nat :=
  (zeroDigits.find? fun z => z ≤ c.toNat && c.toNat < z + 10).map (c.toNat - ·)

/-- The blanks allowed around a numeral: all but the information separators. -/
def isNumeralBlank (c : Char) : Bool :=
  isBlank c && !(28 ≤ c.toNat && c.toNat ≤ 31)

/-- The greatest number of digits of a numeral, leading zeros included. -/
def maxDigits : Nat := 4300

/-- The digits of an unsigned numeral: `pending` tells that a digit has to come next. -/
def readDigits? (pending : Bool) : List Char → Option (List Nat)
  | [] => if pending then none else some []
  | c :: rest =>
    if c == '_' then
      if pending then none else readDigits? true rest
    else do
      let d ← digitValue? c
      let ds ← readDigits? false rest
      pure (d :: ds)

/-- The number that a list of decimal digits writes, the first one weighing most. -/
def ofDigits (ds : List Nat) : Nat :=
  ds.foldl (fun n d => 10 * n + d) 0

/-- Reads an unsigned numeral. -/
def readNat? (s : List Char) : Option Nat := do
  let ds ← readDigits? true s
  if ds.length ≤ maxDigits then some (ofDigits ds) else none

/-- The text without the blanks around a numeral. -/
def trimNumeral (s : List Char) : List Char :=
  ((s.dropWhile isNumeralBlank).reverse.dropWhile isNumeralBlank).reverse

/-- Reads a numeral with blanks around it and an optional sign in front. -/
def readInt? (s : List Char) : Option Int :=
  match trimNumeral s with
  | '+' :: rest => (readNat? rest).map Int.ofNat
  | '-' :: rest => (readNat? rest).map fun n => -Int.ofNat n
  | rest => (readNat? rest).map Int.ofNat

/-- The numeral after zeros and underscores that lead it, `before` being the last of them: from the
first other digit on, or with the character before its point or its end. -/
def afterZeros? (before : Char) : List Char → Option (List Char)
  | [] => some [before]
  | c :: rest =>
    if c == '0' || c == '_' then afterZeros? c rest
    else if c.isDigit then some (c :: rest)
    else if c == '.' then some (before :: c :: rest)
    else none

/-- The numeral without the zeros that lead it. -/
def withoutZeros? : List Char → Option (List Char)
  | [] => none
  | c :: rest =>
    if c == '0' then afterZeros? c rest else if c.isDigit then some (c :: rest) else none

/-- Reads an unsigned whole number of at most `limit` digits; only zeros may follow its point. -/
def readWholeDigits? (limit : Nat) (s : List Char) : Option Nat := do
  let s ← withoutZeros? s
  let (whole, fraction) := s.span (· != '.')
  if whole.any (fun c => !c.isDigit && c != '_') || !fraction.tail.all (· == '0') then none
  let ds ← readDigits? true whole
  if ds.length ≤ limit then some (ofDigits ds) else none

/-- Reads a whole number with blanks around it and an optional sign in front; a minus sign takes the
place of a digit. -/
def readWhole? (s : List Char) : Option Int :=
  match trimNumeral s with
  | '+' :: rest => (readWholeDigits? maxDigits rest).map Int.ofNat
  | '-' :: rest => (readWholeDigits? (maxDigits - 1) rest).map fun n => -Int.ofNat n
  | rest => (readWholeDigits? maxDigits rest).map Int.ofNat

/-- The plain numeral of an integer. -/
def showInt : Int → String
  | .ofNat n => String.ofList (Nat.toDigits 10 n)
  | .negSucc n => String.ofList ('-' :: Nat.toDigits 10 (n + 1))

/-- Whether the numeral of an integer has at most `maxDigits` digits. -/
def fitsNumeral (n : Int) : Bool :=
  (Nat.toDigits 10 n.natAbs).length ≤ maxDigits

end ContractAudit.Text
