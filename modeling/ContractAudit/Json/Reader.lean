/-
  Reading JSON.

  * `Json.read` reads a text that holds one value and white space: no byte order mark, no comma at
    the end, no control character inside a string, no text after the value.  Of repeated keys the
    last value counts, at the place of the first.  A whole number has at most `Text.maxDigits`
    digits.
  * A reader that is not strict takes three words for numbers as well (`numberWords`).
  * A reader follows so many levels of brackets and braces and no more.  A text is refused where the
    reader comes upon its first error, or upon one level too many (`Refusal`).
  * `Json.parse` is the reader of the program.

  Texts are sequences of Unicode characters.  An escape that stands for half a surrogate pair has no
  character of its own, and reads as U+FFFD.
-/
import ContractAudit.Decimal.Value
import ContractAudit.Json.Basic
import ContractAudit.Text.Hex
import ContractAudit.Text.Numeral

namespace ContractAudit.Json

/-- White space between the tokens. -/
def isSpace (c : Char) : Bool :=
  c == ' ' || c == '\t' || c == '\n' || c == '\r'

/-- The text after the white space at its start. -/
def skipSpace (s : List Char) : List Char :=
  s.dropWhile isSpace

/-- A digit of a number. -/
def isDigit (c : Char) : Bool :=
  '0' ≤ c && c ≤ '9'

/-- The whole part of a number: a zero, or digits that do not start with one. -/
def wholeDigits? : List Char → Option (List Char × List Char)
  | '0' :: rest => some (['0'], rest)
  | c :: rest => if isDigit c then some ((c :: rest).span isDigit) else none
  | [] => none

/-- The digits after the point, if there is a point with a digit after it. -/
def fractionDigits : List Char → List Char × List Char
  | '.' :: c :: rest =>
    if isDigit c then (c :: rest).span isDigit else ([], '.' :: c :: rest)
  | s => ([], s)

/-- The digits of an exponent after its sign. -/
def exponentDigits? (s : List Char) : Option (List Char × List Char) :=
  let (ds, rest) := s.span isDigit
  if ds.isEmpty then none else some (ds, rest)

/-- The exponent of a number, if one is written. -/
def exponent? : List Char → Option (Int × List Char)
  | e :: rest =>
    if e == 'e' || e == 'E' then
      match rest with
      | '-' :: rest => (exponentDigits? rest).map fun (ds, rest) =>
          (-(Nat.ofDigitChars 10 ds 0 : Int), rest)
      | '+' :: rest => (exponentDigits? rest).map fun (ds, rest) =>
          ((Nat.ofDigitChars 10 ds 0 : Int), rest)
      | rest => (exponentDigits? rest).map fun (ds, rest) =>
          ((Nat.ofDigitChars 10 ds 0 : Int), rest)
    else none
  | [] => none

/-- A number without its sign. -/
def magnitude? (isNegative : Bool) (s : List Char) : Option (Json × List Char) := do
  let (whole, rest) ← wholeDigits? s
  let (fraction, rest) := fractionDigits rest
  match fraction, exponent? rest with
  | [], none =>
    if whole.length ≤ Text.maxDigits then
      let n : Int := Nat.ofDigitChars 10 whole 0
      some (int (if isNegative then -n else n), rest)
    else none
  | _, e? =>
    let (e, rest) := e?.getD (0, rest)
    let x := Decimal.toFloat ⟨Nat.ofDigitChars 10 (whole ++ fraction) 0, e - fraction.length⟩
    some (float (if isNegative then -x else x), rest)

/-- The text after a given word. -/
def after? (word : String) (s : List Char) : Option (List Char) :=
  if word.toList.isPrefixOf s then some (s.drop word.length) else none

/-- The words for what is no finite number. -/
def numberWords : List (String × Float) := [
  ("NaN", Float.ofBits 0x7FF8000000000000),
  ("Infinity", 1.0 / 0.0),
  ("-Infinity", -(1.0 / 0.0))]

/-- A number that a word stands for. -/
def numberWord? (s : List Char) : Option (Json × List Char) :=
  numberWords.findSome? fun (word, x) => (after? word s).map fun rest => (float x, rest)

/-- A number in digits. -/
def numeral? : List Char → Option (Json × List Char)
  | '-' :: rest => magnitude? true rest
  | s => magnitude? false s

/-- A number in digits or, if there are words for numbers, a word. -/
def number? (hasWords : Bool) (s : List Char) : Option (Json × List Char) :=
  match if hasWords then numberWord? s else none with
  | some number => some number
  | none => numeral? s

/-- The character of a two-character escape. -/
def escaped? (c : Char) : Option Char :=
  if c == '"' || c == '\\' || c == '/' then some c
  else if c == 'b' then some '\x08'
  else if c == 'f' then some '\x0c'
  else if c == 'n' then some '\n'
  else if c == 'r' then some '\r'
  else if c == 't' then some '\t'
  else none

/-- The character of two halves of a surrogate pair. -/
def paired? (high low : Nat) : Option Char :=
  if 0xD800 ≤ high && high < 0xDC00 && 0xDC00 ≤ low && low < 0xE000 then
    some (Char.ofNat (0x10000 + (high - 0xD800) * 1024 + (low - 0xDC00)))
  else none

/-- The character of a single escape by code point; half a pair stands for no character. -/
def unpaired (n : Nat) : Char :=
  if 0xD800 ≤ n && n < 0xE000 then '\uFFFD' else Char.ofNat n

/-- The rest of a string after its opening quote; `acc` holds the characters read, last first. -/
def stringBody? (acc : List Char) : List Char → Option (String × List Char)
  | '"' :: rest => some (String.ofList acc.reverse, rest)
  | '\\' :: 'u' :: a :: b :: c :: d :: '\\' :: 'u' :: e :: f :: g :: h :: rest =>
    match Text.readHex? [a, b, c, d], Text.readHex? [e, f, g, h] with
    | some n, some m =>
      match paired? n m with
      | some p => stringBody? (p :: acc) rest
      | none => stringBody? (unpaired n :: acc) ('\\' :: 'u' :: e :: f :: g :: h :: rest)
    | _, _ => none
  | '\\' :: 'u' :: a :: b :: c :: d :: rest =>
    match Text.readHex? [a, b, c, d] with
    | some n => stringBody? (unpaired n :: acc) rest
    | none => none
  | '\\' :: c :: rest =>
    match escaped? c with
    | some e => stringBody? (e :: acc) rest
    | none => none
  | c :: rest => if c.toNat < 32 || c == '\\' then none else stringBody? (c :: acc) rest
  | [] => none

/-- Why a text is refused. -/
inductive Refusal where
  /-- It is not JSON. -/
  | malformed
  /-- It nests deeper than the reader follows. -/
  | tooDeep
deriving DecidableEq, Repr

/-- What was read, if the text is JSON. -/
def orMalformed {α : Type} : Option α → Except Refusal α
  | some a => .ok a
  | none => .error .malformed

mutual

/-- A value at the start of the text. The reader follows `levels` more levels; `fuel` bounds the
number of values and of elements. -/
def value (hasWords : Bool) (levels fuel : Nat) (s : List Char) :
    Except Refusal (Json × List Char) :=
  match fuel with
  | 0 => .error .malformed
  | fuel + 1 =>
    match s with
    | '"' :: rest => orMalformed ((stringBody? [] rest).map fun (t, rest) => (str t, rest))
    | '[' :: rest =>
      match levels with
      | 0 => .error .tooDeep
      | levels + 1 =>
        match skipSpace rest with
        | ']' :: rest => .ok (arr [], rest)
        | rest => (items hasWords levels fuel rest).map fun (xs, rest) => (arr xs, rest)
    | '\x7b' :: rest =>
      match levels with
      | 0 => .error .tooDeep
      | levels + 1 =>
        match skipSpace rest with
        | '\x7d' :: rest => .ok (obj [], rest)
        | rest => (pairs hasWords levels fuel rest).map fun (ps, rest) => (ofPairs ps, rest)
    | 't' :: rest => orMalformed ((after? "rue" rest).map fun rest => (bool true, rest))
    | 'f' :: rest => orMalformed ((after? "alse" rest).map fun rest => (bool false, rest))
    | 'n' :: rest => orMalformed ((after? "ull" rest).map fun rest => (null, rest))
    | s => orMalformed (number? hasWords s)

/-- The elements of an array up to its closing bracket; the text starts with the first one. -/
def items (hasWords : Bool) (levels fuel : Nat) (s : List Char) :
    Except Refusal (List Json × List Char) :=
  match fuel with
  | 0 => .error .malformed
  | fuel + 1 =>
    match value hasWords levels fuel s with
    | .ok (x, rest) =>
      match skipSpace rest with
      | ',' :: rest => (items hasWords levels fuel (skipSpace rest)).map fun (xs, rest) =>
          (x :: xs, rest)
      | ']' :: rest => .ok ([x], rest)
      | _ => .error .malformed
    | .error e => .error e

/-- The members of an object up to its closing brace; the text starts with the first key. -/
def pairs (hasWords : Bool) (levels fuel : Nat) (s : List Char) :
    Except Refusal (List (String × Json) × List Char) :=
  match fuel with
  | 0 => .error .malformed
  | fuel + 1 =>
    match s with
    | '"' :: rest =>
      match stringBody? [] rest with
      | some (key, rest) =>
        match skipSpace rest with
        | ':' :: rest =>
          match value hasWords levels fuel (skipSpace rest) with
          | .ok (x, rest) =>
            match skipSpace rest with
            | ',' :: rest => (pairs hasWords levels fuel (skipSpace rest)).map fun (ps, rest) =>
                ((key, x) :: ps, rest)
            | '\x7d' :: rest => .ok ([(key, x)], rest)
            | _ => .error .malformed
          | .error e => .error e
        | _ => .error .malformed
      | none => .error .malformed
    | _ => .error .malformed

end

/-- Reads a text that holds one JSON value. -/
def read (hasWords : Bool) (levels : Nat) (s : String) : Except Refusal Json :=
  let cs := s.toList
  match value hasWords levels (2 * cs.length + 1) (skipSpace cs) with
  | .ok (v, rest) => if (skipSpace rest).isEmpty then .ok v else .error .malformed
  | .error e => .error e

/-- How many levels the program follows in what it reads. The interpreter allows a thousand calls
and levels at once, and some thirty calls lead to the reader. -/
def maxLevels : Nat := 970

/-- Reads what the compiler or the service wrote. -/
def parse (s : String) : Except Refusal Json :=
  read true maxLevels s

/-- The value that a text is read as, if it is not refused. -/
def parse? (s : String) : Option Json :=
  (parse s).toOption

end ContractAudit.Json
