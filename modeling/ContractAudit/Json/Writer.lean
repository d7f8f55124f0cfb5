/-
  Writing JSON.

  * A `Layout` fixes what a text of JSON leaves open: separators, indentation, whether characters
    beyond ASCII are escaped, the form of numbers, and whether what is no finite number is written
    as a word.
  * `Json.write` writes a value in a layout; `reportLayout`, `compactLayout`, `requestLayout` and
    `displayLayout` are the four in use.

  A value of any depth is written.  The limit of the library that writes reports is checked where
  they are rendered; the larger one of the program that writes is left out.
-/
import ContractAudit.Decimal.Form
import ContractAudit.Json.Basic
import ContractAudit.Text.Hex
import ContractAudit.Text.Numeral

namespace ContractAudit.Json

/-- How a JSON text is laid out. -/
structure Layout where
  /-- The blanks per level of nesting, or none for a text on one line. -/
  indent : Option Nat
  /-- What stands between elements on one line. -/
  comma : String
  /-- What stands between a key and its value. -/
  colon : String
  /-- Whether every character beyond printable ASCII is escaped. -/
  asciiOnly : Bool
  /-- The form of numbers with a fraction. -/
  numbers : Decimal.Form
  /-- Whether what is no finite number is written as a word, and not as null. -/
  hasWords : Bool

/-- Indented reports. -/
def reportLayout : Layout :=
  { indent := some 2, comma := ",", colon := ": ", asciiOnly := false,
    numbers := Decimal.reportForm, hasWords := false }

/-- Keys and answers on one line, without blanks. -/
def compactLayout : Layout :=
  { indent := none, comma := ",", colon := ":", asciiOnly := false,
    numbers := Decimal.reportForm, hasWords := false }

/-- What is sent to the compiler and to the service, and values inside a text. -/
def requestLayout : Layout :=
  { indent := none, comma := ", ", colon := ": ", asciiOnly := true,
    numbers := Decimal.plainForm, hasWords := true }

/-- Bodies shown to the user. -/
def displayLayout : Layout :=
  { indent := some 2, comma := ",", colon := ": ", asciiOnly := false,
    numbers := Decimal.plainForm, hasWords := true }

/-- The escape of a code point in four hexadecimal digits, in two halves beyond U+FFFF. -/
def unicodeEscape (n : Nat) : List Char :=
  if n < 0x10000 then '\\' :: 'u' :: Text.hex 4 n
  else
    '\\' :: 'u' :: Text.hex 4 (0xD800 + (n - 0x10000) / 1024) ++
      '\\' :: 'u' :: Text.hex 4 (0xDC00 + (n - 0x10000) % 1024)

/-- One character of a string. -/
def escapedChar (asciiOnly : Bool) (c : Char) : List Char :=
  if c == '"' then ['\\', '"']
  else if c == '\\' then ['\\', '\\']
  else if c == '\x08' then ['\\', 'b']
  else if c == '\t' then ['\\', 't']
  else if c == '\n' then ['\\', 'n']
  else if c == '\x0c' then ['\\', 'f']
  else if c == '\r' then ['\\', 'r']
  else if c.toNat < 32 then unicodeEscape c.toNat
  else if asciiOnly && '~' < c then unicodeEscape c.toNat
  else [c]

/-- A string with its quotes. -/
def writeString (asciiOnly : Bool) (s : String) : List Char :=
  '"' :: s.toList.flatMap (escapedChar asciiOnly) ++ ['"']

/-- The break before an element at the given depth. -/
def Layout.lineBreak (l : Layout) (depth : Nat) : List Char :=
  match l.indent with
  | some n => '\n' :: List.replicate (n * depth) ' '
  | none => []

/-- Written elements between brackets, the brackets standing at the given depth. -/
def Layout.enclosed (l : Layout) (left right : Char) (depth : Nat) (parts : List (List Char)) :
    List Char :=
  if parts.isEmpty then [left, right]
  else
    left :: l.lineBreak (depth + 1) ++
      (l.comma.toList ++ l.lineBreak (depth + 1)).intercalate parts ++
      l.lineBreak depth ++ [right]

/-- A number with a fraction. -/
def Layout.number (l : Layout) (x : Float) : String :=
  if Decimal.exponentField x ≠ 2047 then l.numbers.show x
  else if !l.hasWords then "null"
  else if Decimal.fractionField x ≠ 0 then "NaN"
  else if Decimal.isNegative x then "-Infinity"
  else "Infinity"

mutual

/-- A value at the given depth. -/
def Layout.chars (l : Layout) (depth : Nat) : Json → List Char
  | null => ['n', 'u', 'l', 'l']
  | bool true => ['t', 'r', 'u', 'e']
  | bool false => ['f', 'a', 'l', 's', 'e']
  | int n => (Text.showInt n).toList
  | float x => (l.number x).toList
  | str s => writeString l.asciiOnly s
  | arr xs => l.enclosed '[' ']' depth (l.elementChars (depth + 1) xs)
  | obj ms => l.enclosed '\x7b' '\x7d' depth (l.memberChars (depth + 1) ms)

/-- The elements of an array. -/
def Layout.elementChars (l : Layout) (depth : Nat) : List Json → List (List Char)
  | [] => []
  | x :: xs => l.chars depth x :: l.elementChars depth xs

/-- The members of an object. -/
def Layout.memberChars (l : Layout) (depth : Nat) : List (String × Json) → List (List Char)
  | [] => []
  | (k, v) :: ms =>
    (writeString l.asciiOnly k ++ l.colon.toList ++ l.chars depth v) :: l.memberChars depth ms

end

/-- The text of a value. -/
def write (l : Layout) (v : Json) : String :=
  String.ofList (l.chars 0 v)

end ContractAudit.Json
