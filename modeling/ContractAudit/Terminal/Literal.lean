/-
  Literals: values written out in the parameters of a handler.

  * A literal is a number, possibly signed, a sum of a real and an imaginary number, texts or bytes
    side by side, `True`, `False`, `None`, `...`, a tuple, a set or a dictionary of literals, or
    `set()`.  Members of a set and keys of a dictionary hold no set and no dictionary.
  * `tokens?` cuts a text into tokens; a line feed counts only outside of brackets.  `isLiteral`
    says whether the tokens are those of one literal, or of several with commas between them.
-/
import ContractAudit.Text.Hex
import ContractAudit.Text.Numeral

namespace ContractAudit.Terminal.Literal

/-- A number as it is written. -/
inductive Number where
  | integer (n : Nat)
  | real
  | imaginary
deriving DecidableEq, Repr

/-- A token. -/
inductive Token where
  | number (n : Number)
  /-- A text, or bytes. -/
  | text (bytes : Bool)
  /-- A value with a name of its own. -/
  | constant
  /-- The word `set`. -/
  | setWord
  /-- A bracket, comma, colon or sign. -/
  | sign (c : Char)
  /-- The end of a line outside of brackets. -/
  | lineEnd
deriving DecidableEq, Repr

/-- Whether the character may stand in a name. -/
def isNameChar (c : Char) : Bool :=
  c.isAlphanum || c == '_' || 128 ≤ c.toNat

/-- Digits with single underscores between them, after a digit or a mark, and what follows. -/
def digits? (p : Char → Bool) : List Char → Option (List Char × List Char)
  | [] => some ([], [])
  | c :: rest =>
    if p c then (digits? p rest).map fun (ds, after) => (c :: ds, after)
    else if c == '_' then if rest.head?.any p then digits? p rest else none
    else some ([], c :: rest)

/-- A number token with what follows, unless that continues a word. -/
def ended (n : Number) (rest : List Char) : Option (Token × List Char) :=
  if rest.head?.any isNameChar then none else some (.number n, rest)

/-- An integer in another base after its mark. -/
def based? (base : Nat) (s : List Char) : Option (Token × List Char) := do
  let (ds, rest) ← digits? (fun c => (Text.hexDigit? c).any (· < base)) s
  if ds.isEmpty then none
  ended (.integer (ds.foldl (fun n c => base * n + (Text.hexDigit? c).getD 0) 0)) rest

/-- An exponent, if one comes next: whether there is one, and what follows. -/
def exponent? : List Char → Option (Bool × List Char)
  | [] => some (false, [])
  | c :: rest =>
    if c == 'e' || c == 'E' then do
      let rest := match rest with
        | '+' :: r => r
        | '-' :: r => r
        | r => r
      if rest.head?.any Char.isDigit then (digits? Char.isDigit rest).map fun r => (true, r.2)
      else none
    else some (false, c :: rest)

/-- A decimal number. Zeros may lead no integer but zero. -/
def decimal? (s : List Char) : Option (Token × List Char) := do
  let (whole, rest) ← if s.head?.any Char.isDigit then digits? Char.isDigit s else some ([], s)
  let (pointed, rest) ← match rest with
    | '.' :: r =>
      if r.head?.any Char.isDigit then (digits? Char.isDigit r).map fun q => (true, q.2)
      else some (true, r)
    | r => some (false, r)
  let (scaled, rest) ← exponent? rest
  match rest with
  | 'j' :: r => ended .imaginary r
  | 'J' :: r => ended .imaginary r
  | r =>
    if pointed || scaled then ended .real r
    else
      let n := whole.foldl (fun n c => 10 * n + (c.toNat - 48)) 0
      if n ≠ 0 && (whole.head? == some '0' || Text.maxDigits < whole.length) then none
      else ended (.integer n) r

/-- A number at the start of a text. -/
def number? : List Char → Option (Token × List Char)
  | '0' :: c :: rest =>
    if c == 'x' || c == 'X' then based? 16 rest
    else if c == 'o' || c == 'O' then based? 8 rest
    else if c == 'b' || c == 'B' then based? 2 rest
    else decimal? ('0' :: c :: rest)
  | s => decimal? s

/-- The inside of a text up to its closing quotes, `count` of them, and what follows. A character
after a backslash closes nothing. -/
def quoted? (quote : Char) (count : Nat) : List Char → Option (List Char × List Char)
  | [] => none
  | '\\' :: c :: rest => (quoted? quote count rest).map fun (s, after) => ('\\' :: c :: s, after)
  | c :: rest =>
    if (List.replicate count quote).isPrefixOf (c :: rest) then some ([], rest.drop (count - 1))
    else if count = 1 && c == '\n' then none
    else (quoted? quote count rest).map fun (s, after) => (c :: s, after)

/-- Whether a character goes by the digits after a backslash and a mark. -/
def isCode (count : Nat) (s : List Char) : Bool :=
  let ds := s.take count
  ds.length == count && (Text.readHex? ds).any (· < 0x110000)

/-- Whether a name of a character stands in braces. -/
def isNamed (s : List Char) : Bool :=
  match s with
  | '\x7b' :: rest =>
    match rest.span (· != '\x7d') with
    | (name, '\x7d' :: _) =>
      !name.isEmpty && name.all fun c => c.isAlphanum || c == ' ' || c == '-'
    | _ => false
  | _ => false

/-- Whether every escape in a text is complete. -/
def escapesClosed (bytes : Bool) : List Char → Bool
  | [] => true
  | '\\' :: c :: rest =>
    (match c with
      | 'x' => isCode 2 rest
      | 'u' => bytes || isCode 4 rest
      | 'U' => bytes || isCode 8 rest
      | 'N' => bytes || isNamed rest
      | _ => true) && escapesClosed bytes rest
  | _ :: rest => escapesClosed bytes rest

/-- A text or bytes at the start of `s`, after the letters `mark` in lower case. -/
def text? (mark : List Char) (s : List Char) : Option (Token × List Char) := do
  let bytes := mark.contains 'b'
  let (inside, rest) ← match s with
    | a :: b :: c :: rest =>
      if a == b && b == c then quoted? a 3 rest else quoted? a 1 (b :: c :: rest)
    | a :: rest => quoted? a 1 rest
    | [] => none
  if bytes && inside.any (128 ≤ ·.toNat) then none
  else if !mark.contains 'r' && !escapesClosed bytes inside then none
  else some (.text bytes, rest)

/-- The letters that may stand before a quote. -/
def textMarks : List String := ["r", "u", "b", "br", "rb"]

/-- Whether a quote comes next. -/
def startsText (s : List Char) : Bool :=
  s.head? == some '\'' || s.head? == some '"'

/-- A name, or a text with letters before it, at the start of `s`. -/
def word? (s : List Char) : Option (Token × List Char) :=
  let (name, rest) := s.span isNameChar
  let mark := name.map Char.toLower
  if startsText rest then
    if textMarks.contains (String.ofList mark) then text? mark rest else none
  else
    match String.ofList name with
    | "True" => some (.constant, rest)
    | "False" => some (.constant, rest)
    | "None" => some (.constant, rest)
    | "set" => some (.setWord, rest)
    | _ => none

/-- The greatest number of open brackets. -/
def maxDepth : Nat := 200

/-- The tokens of a text when `depth` brackets are open. `blank` tells that nothing stands on the
line so far but `indent` blanks; only the first line may be indented. -/
def tokensFrom (depth : Nat) (blank : Bool) (indent fuel : Nat) (s : List Char) :
    Option (List Token) :=
  match fuel, s with
  | 0, _ => none
  | _, [] => if depth = 0 then some [] else none
  | fuel + 1, c :: rest =>
    if c == ' ' || c == '\t' then tokensFrom depth blank (indent + 1) fuel rest
    else if c == '\x0c' then tokensFrom depth blank 0 fuel rest
    else if c == '\n' then
      if 0 < depth || blank then tokensFrom depth blank 0 fuel rest
      else (tokensFrom depth true 0 fuel rest).map (.lineEnd :: ·)
    else if c == '#' then tokensFrom depth blank indent fuel (rest.dropWhile (· != '\n'))
    else if c == '\\' then
      match rest with
      | '\n' :: d :: after => tokensFrom depth blank 0 fuel (d :: after)
      | _ => none
    else if blank && 0 < indent && depth = 0 then none
    else if c == '(' || c == '\x7b' then
      if depth < maxDepth then
        (tokensFrom (depth + 1) false 0 fuel rest).map (.sign c :: ·)
      else none
    else if c == ')' || c == '\x7d' then
      if depth = 0 then none else (tokensFrom (depth - 1) false 0 fuel rest).map (.sign c :: ·)
    else if c == ',' || c == ':' || c == '+' || c == '-' then
      (tokensFrom depth false 0 fuel rest).map (.sign c :: ·)
    else do
      let (token, after) ←
        if c.isDigit then number? s
        else if c == '.' then
          match rest with
          | '.' :: '.' :: after => some (.constant, after)
          | d :: _ => if d.isDigit then number? s else none
          | [] => none
        else if startsText s then text? [] s
        else if isNameChar c then word? s
        else none
      (tokensFrom depth false 0 fuel after).map (token :: ·)

/-- A text with line feeds for its line breaks. -/
def unified : List Char → List Char
  | [] => []
  | '\r' :: '\n' :: rest => '\n' :: unified rest
  | c :: rest => (if c == '\r' then '\n' else c) :: unified rest

/-- The tokens of a text, if it consists of tokens. -/
def tokens? (s : List Char) : Option (List Token) :=
  if s.contains '\x00' then none
  else
    let s := unified (s.dropWhile fun c => c == ' ' || c == '\t')
    tokensFrom 0 true 0 (s.length + 1) s

/-- What has been read of a literal. -/
inductive Value where
  | number (n : Number)
  /-- A number with a sign. -/
  | signed (n : Number)
  /-- The word `set`, which is no literal by itself. -/
  | setWord
  /-- Any other literal, and whether it may be a key. -/
  | other (isKey : Bool)
deriving DecidableEq, Repr

/-- Whether a set may hold the value. -/
def Value.isKey : Value → Bool
  | .other k => k
  | .setWord => false
  | _ => true

/-- A value unless it is the word `set`. -/
def Value.complete? : Value → Option Value
  | .setWord => none
  | v => some v

/-- The least integer that no floating-point number comes near. -/
def floatLimit : Nat := Nat.pow 2 1024 - Nat.pow 2 970

/-- The sum of a real and an imaginary number. -/
def Value.plus? : Value → Value → Option Value
  | .number (.integer n), .number .imaginary => if n < floatLimit then some (.other true) else none
  | .signed (.integer n), .number .imaginary => if n < floatLimit then some (.other true) else none
  | .number .real, .number .imaginary => some (.other true)
  | .signed .real, .number .imaginary => some (.other true)
  | _, _ => none

/-- The value with the calls after it: `set()` is the empty set. -/
def called : Value → List Token → Value × List Token
  | .setWord, .sign '(' :: .sign ')' :: rest => (.other false, rest)
  | v, ts => (v, ts)

/-- The rest of texts side by side, which are all of one kind. -/
def moreText? (bytes : Bool) : List Token → Option (Value × List Token)
  | .text b :: rest => if b = bytes then moreText? bytes rest else none
  | ts => some (.other true, ts)

mutual

/-- A value or a sum of two. -/
def sum? (fuel : Nat) (ts : List Token) : Option (Value × List Token) :=
  match fuel with
  | 0 => none
  | fuel + 1 =>
    match operand? fuel ts with
    | none => none
    | some (v, ts) =>
      match ts with
      | .sign '+' :: rest => added? fuel v rest
      | .sign '-' :: rest => added? fuel v rest
      | _ => some (v, ts)

/-- The sum of a value and the next one. -/
def added? (fuel : Nat) (v : Value) (ts : List Token) : Option (Value × List Token) :=
  match fuel with
  | 0 => none
  | fuel + 1 =>
    match operand? fuel ts with
    | none => none
    | some (w, ts) => (v.plus? w).map (·, ts)

/-- A value with its sign. -/
def operand? (fuel : Nat) (ts : List Token) : Option (Value × List Token) :=
  match fuel with
  | 0 => none
  | fuel + 1 =>
    match ts with
    | .sign '+' :: rest => negated? fuel rest
    | .sign '-' :: rest => negated? fuel rest
    | _ => (atom? fuel ts).map fun (v, rest) => called v rest

/-- A number after a sign. -/
def negated? (fuel : Nat) (ts : List Token) : Option (Value × List Token) :=
  match fuel with
  | 0 => none
  | fuel + 1 =>
    match operand? fuel ts with
    | some (.number n, rest) => some (.signed n, rest)
    | _ => none

/-- A value without a sign. -/
def atom? (fuel : Nat) (ts : List Token) : Option (Value × List Token) :=
  match fuel with
  | 0 => none
  | fuel + 1 =>
    match ts with
    | .number n :: rest => some (.number n, rest)
    | .text b :: rest => moreText? b rest
    | .constant :: rest => some (.other true, rest)
    | .setWord :: rest => some (.setWord, rest)
    | .sign '(' :: .sign ')' :: rest => some (.other true, rest)
    | .sign '(' :: rest =>
      match sum? fuel rest with
      | some (v, .sign ')' :: rest) => some (v, rest)
      | some (v, .sign ',' :: rest) =>
        v.complete?.bind fun v => members? fuel ')' v.isKey rest
      | _ => none
    | .sign '\x7b' :: .sign '\x7d' :: rest => some (.other false, rest)
    | .sign '\x7b' :: rest =>
      match sum? fuel rest with
      | some (v, .sign ':' :: rest) => if v.isKey then entry? fuel rest else none
      | some (v, .sign '\x7d' :: rest) => if v.isKey then some (.other false, rest) else none
      | some (v, .sign ',' :: rest) =>
        match members? fuel '\x7d' v.isKey rest with
        | some (.other true, rest) => some (.other false, rest)
        | _ => none
      | _ => none
    | _ => none

/-- The members after a comma, up to the bracket `close`; `keys` tells whether all members before
may be keys. -/
def members? (fuel : Nat) (close : Char) (keys : Bool) (ts : List Token) :
    Option (Value × List Token) :=
  match fuel with
  | 0 => none
  | fuel + 1 =>
    if ts.head? == some (.sign close) then some (.other keys, ts.tail)
    else
      match sum? fuel ts with
      | some (v, rest) =>
        v.complete?.bind fun v =>
          if rest.head? == some (.sign close) then some (.other (keys && v.isKey), rest.tail)
          else if rest.head? == some (.sign ',') then
            members? fuel close (keys && v.isKey) rest.tail
          else none
      | none => none

/-- The value of an entry of a dictionary, and the entries after it. -/
def entry? (fuel : Nat) (ts : List Token) : Option (Value × List Token) :=
  match fuel with
  | 0 => none
  | fuel + 1 =>
    match sum? fuel ts with
    | some (.setWord, _) => none
    | some (_, .sign '\x7d' :: rest) => some (.other false, rest)
    | some (_, .sign ',' :: .sign '\x7d' :: rest) => some (.other false, rest)
    | some (_, .sign ',' :: rest) =>
      match sum? fuel rest with
      | some (v, .sign ':' :: rest) => if v.isKey then entry? fuel rest else none
      | _ => none
    | _ => none

end

/-- Whether the tokens are those of literals with commas between them; after the last one only
lines may end. -/
def areLiterals (fuel : Nat) (ts : List Token) : Bool :=
  match fuel with
  | 0 => false
  | fuel + 1 =>
    match sum? (8 * ts.length + 8) ts with
    | some (v, rest) =>
      v != .setWord &&
        if rest.all (· == .lineEnd) then true
        else
          match rest with
          | .sign ',' :: rest => rest.all (· == .lineEnd) || areLiterals fuel rest
          | _ => false
    | none => false

/-- Whether a text is a literal. -/
def isLiteral (s : List Char) : Bool :=
  (tokens? s).any fun ts => areLiterals (ts.length + 1) ts

end ContractAudit.Terminal.Literal
