/-
  Console markup.

  * A tag is a bracketed word that starts with a letter, `#`, `/` or `@`; it may have parameters
    after an equals sign.  Tags set styles, or handlers if their names start with `@`, and do not
    show.  `[/name]` closes the innermost open tag of that name, `[/]` the innermost one.
  * An odd number of backslashes before a tag makes it plain text, and two backslashes before it
    stand for one.
  * `styledText` is the text without its tags, with emoji for their codes and a stretch for each
    tag.  Closing a tag that is not open is an error, and so are the parameters of a handler that
    are no literal.
-/
import ContractAudit.Terminal.Emoji
import ContractAudit.Terminal.Literal
import ContractAudit.Terminal.Marking
import ContractAudit.Terminal.StyledText
import ContractAudit.Text.Word

namespace ContractAudit.Terminal

/-- A piece of markup. -/
inductive Piece where
  | text (s : List Char)
  | opening (name : List Char) (parameters : Option (List Char))
  | closing (name : List Char)
  /-- Closes whichever tag is innermost. -/
  | closingLast
deriving Repr

/-- Whether a tag may start with the character. -/
def startsTag (c : Char) : Bool :=
  ('a' ≤ c && c ≤ 'z') || c == '#' || c == '/' || c == '@'

/-- The inside of a tag and the text after it, at the start of the text after a bracket. -/
def tag? : List Char → Option (List Char × List Char)
  | c :: rest =>
    if startsTag c then
      match rest.span fun d => d != ']' && d != '[' with
      | (inside, ']' :: after) => some (c :: inside, after)
      | _ => none
    else none
  | [] => none

/-- The piece that a tag is. -/
def tagPiece : List Char → Piece
  | '/' :: inside =>
    let name := inside.takeWhile (· != '=')
    if (Text.trim name).isEmpty then .closingLast else .closing name
  | inside =>
    match inside.span (· != '=') with
    | (name, _ :: parameters) => .opening name (some parameters)
    | (name, []) => .opening name none

/-- The text with `\[` written as `[`. -/
def unescaped : List Char → List Char
  | [] => []
  | '\\' :: '[' :: rest => '[' :: unescaped rest
  | c :: rest => c :: unescaped rest

/-- The pieces of a text. `plain` holds the text before, last character first, and `slashes` counts
the backslashes just before. -/
def piecesOf (plain : List Char) (slashes fuel : Nat) (s : List Char) : List Piece :=
  let before := Piece.text (unescaped plain.reverse)
  match fuel, s with
  | 0, _ => []
  | _, [] => [.text (unescaped (List.replicate slashes '\\' ++ plain).reverse)]
  | fuel + 1, '\\' :: rest => piecesOf plain (slashes + 1) fuel rest
  | fuel + 1, '[' :: rest =>
    match tag? rest with
    | some (inside, after) =>
      let kept := Piece.text (List.replicate (slashes / 2) '\\')
      let piece := if slashes % 2 = 1 then Piece.text (unescaped ('[' :: inside ++ [']']))
        else tagPiece inside
      before :: kept :: piece :: piecesOf [] 0 fuel after
    | none => piecesOf ('[' :: List.replicate slashes '\\' ++ plain) 0 fuel rest
  | fuel + 1, c :: rest => piecesOf (c :: List.replicate slashes '\\' ++ plain) 0 fuel rest

/-- The pieces of a text. -/
def markupPieces (s : String) : List Piece :=
  piecesOf [] 0 (s.length + 1) s.toList

/-- An open tag: its name, its parameters and the position of the text after it. -/
structure OpenTag where
  name : String
  parameters : Option (List Char)
  start : Nat
deriving Repr

/-- The part of a handler's parameters that has to be a literal: what stands in the brackets after
its name, or all of it if it is no name. -/
def handlerLiteral (parameters : List Char) : List Char :=
  let p := Text.trim parameters
  match p.dropWhile fun c => Text.isWord c || c == '.' with
  | [] => ['(', ')']
  | '(' :: rest => if rest.getLast? == some ')' && !rest.contains '\n' then '(' :: rest else p
  | _ => p

namespace OpenTag

/-- The description of the style: the name and the parameters. -/
def description (t : OpenTag) : String :=
  match t.parameters with
  | some ps => t.name ++ " " ++ String.ofList ps
  | none => t.name

/-- The stretch of a tag that is closed at a position. -/
def closed (t : OpenTag) (stop : Nat) : Except Defect Stretch :=
  if t.name.startsWith "@" then
    let ps := t.parameters.getD []
    if ps.isEmpty || Literal.isLiteral (handlerLiteral ps) then .ok ⟨t.start, stop, none⟩
    else .error .badHandler
  else .ok ⟨t.start, stop, some t.description⟩

end OpenTag

/-- The text and the stretches of pieces from a position on, when some tags are open, innermost
first. A tag that is never closed holds up to the end. -/
def styledPieces (pos : Nat) (isOpen : List OpenTag) :
    List Piece → Except Defect (List Char × List Stretch)
  | [] => .ok ([], isOpen.map fun t => ⟨t.start, pos, some t.description⟩)
  | .text s :: rest => do
    let shown := shownChars (withEmoji s)
    let (chars, stretches) ← styledPieces (pos + shown.length) isOpen rest
    pure (shown ++ chars, stretches)
  | .opening name parameters :: rest => do
    let name ← styleName name
    styledPieces pos (⟨name, parameters, pos⟩ :: isOpen) rest
  | .closing name :: rest => do
    let name ← styleName name
    match isOpen.find? (·.name == name) with
    | none => throw .unbalancedMarkup
    | some tag =>
      let stretch ← tag.closed pos
      let (chars, stretches) ← styledPieces pos (isOpen.eraseP (·.name == name)) rest
      pure (chars, stretch :: stretches)
  | .closingLast :: rest =>
    match isOpen with
    | [] => throw .unbalancedMarkup
    | tag :: others => do
      let stretch ← tag.closed pos
      let (chars, stretches) ← styledPieces pos others rest
      pure (chars, stretch :: stretches)

/-- The text that markup shows. -/
def styledText (s : String) : Except Defect StyledText := do
  let (chars, stretches) ← styledPieces 0 [] (markupPieces s)
  pure { chars, stretches }

/-- Finds out the styles of all stretches. What describes no style has none. -/
def StyledText.resolveStyles (t : StyledText) : Except Defect Unit :=
  t.stretches.forM fun s =>
    match s.style.map fun d => readStyle d.toList with
    | some (.error .badNumber) => .error .badColour
    | _ => .ok ()

end ContractAudit.Terminal
