/-
  Lines of text in a number of terminal cells.

  * `breaks` are the positions at which a line is broken.  A word is a run of characters with the
    blanks after it; it goes on the current line if it fits without them.  A word that fits on no
    line is cut in pieces when folding, and else stands on a line of its own.
  * `wrap` breaks a text at line feeds, expands tabs, breaks the lines between words, drops blanks
    beyond the width and cuts what is still too wide; `aligned` moves the lines to one side besides.
  * `cell` is the text of the lines in a cell of exactly that width.
-/
import ContractAudit.Terminal.StyledText

namespace ContractAudit.Terminal

/-- What becomes of a word that is wider than the line. -/
inductive Overflow where
  /-- It is cut in pieces. -/
  | fold
  /-- The line is cut and ends with an ellipsis. -/
  | ellipsis
deriving DecidableEq, Repr

/-- How the lines of a cell are aligned. -/
inductive Alignment where
  | left
  | center
  | right
deriving DecidableEq, Repr

/-- The words of a line: characters that are no blanks, with the blanks after them; the first word
has those before it too. -/
def words (s : List Char) : List (List Char) :=
  match (s.dropWhile Text.isBlank).splitBy fun a b => !(Text.isBlank a && !Text.isBlank b) with
  | [] => []
  | first :: rest => (s.takeWhile Text.isBlank ++ first) :: rest

/-- A line being broken: the positions of the breaks so far, last one first, the position of the
next word and the cells taken on the current line. -/
structure Filling where
  breaks : List Nat := []
  position : Nat := 0
  used : Nat := 0

namespace Filling

/-- The filling with the line broken, unless nothing has been put on it. -/
def newLine (f : Filling) : Filling :=
  if f.position = 0 then f else { f with breaks := f.position :: f.breaks, used := 0 }

/-- The filling with text put on the current line. -/
def put (f : Filling) (s : List Char) : Filling :=
  { f with position := f.position + s.length, used := f.used + width s }

/-- The filling with one more word. -/
def add (w : Nat) (overflow : Overflow) (f : Filling) (word : List Char) : Filling :=
  let size := width (Text.trimRight word)
  if f.used + size ≤ w then f.put word
  else if size ≤ w ∨ overflow = .ellipsis then f.newLine.put word
  else (pieces w word).foldl (fun f p => f.newLine.put p) f

end Filling

/-- The positions at which a line is broken. -/
def breaks (w : Nat) (overflow : Overflow) (s : List Char) : List Nat :=
  ((words s).foldl (Filling.add w overflow) {}).breaks.reverse

namespace StyledText

/-- The line in at most `w` cells. -/
def truncate (w : Nat) (overflow : Overflow) (t : StyledText) : StyledText :=
  if width t.chars ≤ w then t
  else
    t.withChars <| match overflow with
      | .fold => fit w t.chars
      | .ellipsis => fit (w - 1) t.chars ++ ['…']

/-- A line broken between words. -/
def fill (w : Nat) (overflow : Overflow) (t : StyledText) : List StyledText :=
  (t.expandTabs.divide (breaks w overflow t.expandTabs.chars)).map (dropExcessBlanks w)

/-- The lines of a text in `w` cells, without alignment. -/
def wrap (w : Nat) (overflow : Overflow) (t : StyledText) : List StyledText :=
  t.lines.flatMap fun l => (l.fill w overflow).map (truncate w overflow)

/-- A line aligned in `w` cells. -/
def align (w : Nat) (overflow : Overflow) (a : Alignment) (t : StyledText) : StyledText :=
  match a with
  | .left => (t.truncate w overflow).padRight (w - width t.chars)
  | .right =>
    let t := t.trimRight.truncate w overflow
    t.padLeft (w - width t.chars)
  | .center =>
    let t := t.trimRight.truncate w overflow
    let t := t.padLeft ((w - width t.chars) / 2)
    t.padRight (w - width t.chars)

/-- The lines of a text in `w` cells, aligned. -/
def aligned (w : Nat) (overflow : Overflow) (a : Alignment) (t : StyledText) : List StyledText :=
  t.lines.flatMap fun l => (l.fill w overflow).map (align w overflow a)

end StyledText

/-- The lines of a text in `w` cells, aligned and filled up with blanks. -/
def cell (w : Nat) (overflow : Overflow) (a : Alignment) (t : StyledText) : List (List Char) :=
  (t.aligned w overflow a).map (StyledText.fitted w)

/-- Whether a character ends a line when the natural width of a text is measured. -/
def isLineEnd (c : Char) : Bool :=
  c == '\n' || (28 ≤ c.toNat && c.toNat ≤ 30) || c.toNat == 0x85 || c.toNat == 0x2028 ||
    c.toNat == 0x2029

/-- The width of the longest line of a text. -/
def naturalWidth (s : List Char) : Nat :=
  ((s.splitOnP isLineEnd).map width).foldl max 0

end ContractAudit.Terminal
