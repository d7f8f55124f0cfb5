/-
  Lines of a text.

  * `unifyBreaks` turns the line breaks CR LF and CR into LF;
  * `joined` puts a separator between texts, and `occursIn` looks for one text in another.
-/

namespace ContractAudit.Text

/-- The text with every line break written as a line feed. -/
def unifyBreaks : List Char → List Char
  | [] => []
  | '\r' :: '\n' :: rest => '\n' :: unifyBreaks rest
  | c :: rest => (if c == '\r' then '\n' else c) :: unifyBreaks rest

/-- The texts one after the other, with `sep` between neighbours. -/
def joined (sep : String) (parts : List String) : String :=
  sep.intercalate parts

/-- Whether a text occurs in another one. -/
def occursIn (part : List Char) : List Char → Bool
  | [] => part.isEmpty
  | c :: rest => part.isPrefixOf (c :: rest) || occursIn part rest

/-- The lines between the line feeds, the last one after the last line feed. -/
def lines (s : List Char) : List (List Char) :=
  s.splitOn '\n'

end ContractAudit.Text
