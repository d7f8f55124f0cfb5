/-
  Quoted texts, as messages show them.

  * `quoted` puts a text between quotes, single ones unless the text holds a single quote and no
    double one;
  * the quote in use and the backslash get a backslash, line feed, carriage return and tab are
    written `\n`, `\r`, `\t`, and any other unprintable character by its code point in two, four or
    eight hexadecimal digits.
-/
import ContractAudit.Text.Hex
import ContractAudit.Text.Printable

namespace ContractAudit.Text

/-- The quote around a text. -/
def quoteFor (s : List Char) : Char :=
  if s.contains '\'' && !s.contains '"' then '"' else '\''

/-- One character between quotes `q`. -/
def quotedChar (q c : Char) : List Char :=
  if c == q || c == '\\' then ['\\', c]
  else if c == '\n' then ['\\', 'n']
  else if c == '\r' then ['\\', 'r']
  else if c == '\t' then ['\\', 't']
  else if isPrintable c then [c]
  else if c.toNat < 0x100 then '\\' :: 'x' :: hex 2 c.toNat
  else if c.toNat < 0x10000 then '\\' :: 'u' :: hex 4 c.toNat
  else '\\' :: 'U' :: hex 8 c.toNat

/-- A text between quotes. -/
def quoted (s : String) : String :=
  let q := quoteFor s.toList
  String.ofList (q :: s.toList.flatMap (quotedChar q) ++ [q])

end ContractAudit.Text
