/-
  Tables of text on a terminal.

  * A `Style` says how a column aligns its cells, what it does with long words, its fixed width if
    it has one, and the blanks on both sides of a cell.
  * A `Border` draws the lines around and between columns; a grid has none.
  * `tableLines` settles the widths and draws header and rows; the cells of a row are filled up with
    blank lines to the tallest one.  `tableTexts` are the lines of all cells with their stretches.
  * `panelLines` draws a frame around lines.
-/
import ContractAudit.Terminal.Columns
import ContractAudit.Terminal.Wrap

namespace ContractAudit.Terminal

/-- How a column shows its cells. -/
structure Style where
  alignment : Alignment := .left
  overflow : Overflow := .ellipsis
  /-- The width without padding, if it does not depend on the cells. -/
  fixedWidth : Option Nat := none
  /-- Blanks on the left of each cell. -/
  before : Nat := 1
  /-- Blanks on the right of each cell. -/
  after : Nat := 1

/-- A horizontal line of a border. -/
structure Rule where
  left : Char
  fill : Char
  divider : Char
  right : Char

/-- The lines around and between columns. -/
structure Border where
  top : Rule
  head : Rule
  bottom : Rule
  left : Char
  divider : Char
  right : Char

/-- Only a line below the header; elsewhere blanks. -/
def headed : Border :=
  let none : Rule := ⟨' ', ' ', ' ', ' '⟩
  { top := none, head := ⟨' ', '─', '─', ' '⟩, bottom := none, left := ' ', divider := ' ',
    right := ' ' }

/-- A frame with round corners and lines between columns. -/
def rounded : Border :=
  { top := ⟨'╭', '─', '┬', '╮'⟩, head := ⟨'├', '─', '┼', '┤'⟩, bottom := ⟨'╰', '─', '┴', '╯'⟩,
    left := '│', divider := '│', right := '│' }

/-- The rule over columns of the given widths. -/
def Rule.line (r : Rule) (widths : List Nat) : List Char :=
  r.left :: [r.divider].intercalate (widths.map fun w => List.replicate w r.fill) ++ [r.right]

/-- The cells that the border itself takes. -/
def Border.extra (b : Option Border) (columns : Nat) : Nat :=
  if b.isSome then columns + 1 else 0

/-- The cells for text in a cell of `w` cells. -/
def Style.room (s : Style) (w : Nat) : Nat :=
  w - s.before - s.after

/-- The lines of one cell in `w` cells; there are none without room for text. -/
def Style.cellTexts (s : Style) (w : Nat) (t : StyledText) : List StyledText :=
  if s.room w = 0 then [] else t.aligned (s.room w) s.overflow s.alignment

/-- The lines of one cell in `w` cells as they are drawn, padding included. -/
def Style.cellLines (s : Style) (w : Nat) (t : StyledText) : List (List Char) :=
  (s.cellTexts w t).map fun l => blanks s.before ++ l.fitted (s.room w) ++ blanks s.after

/-- The natural width of a column. -/
def Style.column (s : Style) (available : Nat) (texts : List StyledText) : Column :=
  let padding := s.before + s.after
  match s.fixedWidth with
  | some w => { natural := w + padding, fixed := true }
  | none =>
    { natural := greatest (texts.map fun t => min available (naturalWidth t.chars) + padding)
      fixed := false }

/-- The cells of a row side by side, each given by its lines. -/
def sideBySide (b : Option Border) (widths : List Nat) (cells : List (List (List Char))) :
    List (List Char) :=
  let height := greatest (cells.map List.length)
  (List.range height).map fun i =>
    let parts := (widths.zip cells).map fun (w, lines) => (lines[i]?).getD (blanks w)
    match b with
    | some b => b.left :: [b.divider].intercalate parts ++ [b.right]
    | none => parts.flatten

/-- The lines of a row. -/
def rowLines (b : Option Border) (styles : List Style) (widths : List Nat)
    (row : List StyledText) : List (List Char) :=
  sideBySide b widths
    ((styles.zip (widths.zip row)).map fun (s, w, t) => s.cellLines w t)

/-- The widths of the columns of a table in `available` cells. -/
def tableWidths (available : Nat) (b : Option Border) (styles : List Style)
    (rows : List (List StyledText)) : List Nat :=
  let inner := available - Border.extra b styles.length
  columnWidths inner ((styles.zip (List.range styles.length)).map fun (s, i) =>
    s.column inner (rows.map fun r => (r[i]?).getD { chars := [] }))

/-- The cells that a table with a border takes. -/
def tableSize (available : Nat) (b : Border) (styles : List Style)
    (rows : List (List StyledText)) : Nat :=
  total (tableWidths available (some b) styles rows) + Border.extra (some b) styles.length

/-- A table without a header and without lines. -/
def gridLines (available : Nat) (styles : List Style) (rows : List (List StyledText)) :
    List (List Char) :=
  let widths := tableWidths available none styles rows
  rows.flatMap (rowLines none styles widths)

/-- A table with a header, and a title centered above it. -/
def tableLines (available : Nat) (b : Border) (title : Option String) (styles : List Style)
    (header rows : List (List StyledText)) : List (List Char) :=
  let widths := tableWidths available (some b) styles (header ++ rows)
  (match title with
    | some t => cell (tableSize available b styles (header ++ rows)) .fold .center (.plain t)
    | none => []) ++
  b.top.line widths :: header.flatMap (rowLines (some b) styles widths) ++
  b.head.line widths :: rows.flatMap (rowLines (some b) styles widths) ++
  [b.bottom.line widths]

/-- The lines of all cells of such a table, in the order in which they are drawn. -/
def tableTexts (available : Nat) (b : Border) (styles : List Style)
    (header rows : List (List StyledText)) : List StyledText :=
  let widths := tableWidths available (some b) styles (header ++ rows)
  (header ++ rows).flatMap fun row =>
    (styles.zip (widths.zip row)).flatMap fun (s, w, t) => s.cellTexts w t

/-- The top of a frame of `w` cells, with a title in its middle. -/
def titledTop (b : Border) (w : Nat) (title : List Char) : List Char :=
  let t := ' ' :: title ++ [' ']
  let free := w - 4 - width t
  b.top.left :: b.top.fill :: List.replicate (free / 2) b.top.fill ++ t ++
    List.replicate (free - free / 2) b.top.fill ++ [b.top.fill, b.top.right]

/-- Lines of `w - 4` cells in a frame of `w` cells with one blank inside on each side. -/
def panelLines (b : Border) (w : Nat) (title : Option (List Char)) (content : List (List Char)) :
    List (List Char) :=
  (match title with
    | some t => titledTop b w t
    | none => b.top.line [w - 2]) ::
  content.map (fun l => b.left :: ' ' :: l ++ [' ', b.right]) ++
  [b.bottom.line [w - 2]]

end ContractAudit.Terminal
