/-
  Text in which stretches have styles.

  * A `Stretch` is a range of positions; it says by its description which style it has.
  * `StyledText` is a text with its stretches.  They follow the text when it is cut (`slice`,
    `divide`, `lines`), filled up (`padLeft`, `padRight`), shortened (`shortened`) or when its tabs
    are expanded (`expandTabs`); a stretch without characters does not survive a cut.
  * `segments` are the parts between the ends of stretches, each of which is measured by itself.
-/
import ContractAudit.Terminal.Width
import ContractAudit.Text.Blank

namespace ContractAudit.Terminal

/-- A part of a text with a style. -/
structure Stretch where
  start : Nat
  stop : Nat
  /-- The description of the style; a handler has none. -/
  style : Option String := none
deriving DecidableEq, Repr

namespace Stretch

/-- The part of a stretch between two positions, counted from the first one, if there is any. -/
def within? (start stop : Nat) (s : Stretch) : Option Stretch :=
  let first := max s.start start
  let last := min s.stop stop
  if first < last then some { s with start := first - start, stop := last - start } else none

/-- The stretch in a text of `n` characters, if it begins there. -/
def upTo? (n : Nat) (s : Stretch) : Option Stretch :=
  if s.start < n then some { s with stop := min n s.stop } else none

/-- The stretch `n` positions later. -/
def shift (n : Nat) (s : Stretch) : Stretch :=
  { s with start := s.start + n, stop := s.stop + n }

end Stretch

/-- A text with stretches. -/
structure StyledText where
  chars : List Char
  stretches : List Stretch := []
  /-- Whether there is a style for the whole text besides. -/
  styled : Bool := false
deriving Repr

/-- The characters of a text that reach the terminal. -/
def shownChars (s : List Char) : List Char :=
  s.filter fun c =>
    !(c.toNat == 7 || c.toNat == 8 || c.toNat == 11 || c.toNat == 12 || c.toNat == 13)

/-- The characters of a string that reach the terminal. -/
def shown (s : String) : List Char :=
  shownChars s.toList

/-- The positions of the characters with a property. -/
def positions (p : Char → Bool) (s : List Char) : List Nat :=
  (s.zipIdx.filter fun c => p c.1).map (·.2)

namespace StyledText

/-- Text without stretches. -/
def plain (s : String) : StyledText :=
  { chars := shown s }

/-- The part between two positions. -/
def slice (t : StyledText) (start stop : Nat) : StyledText :=
  { t with
    chars := (t.chars.drop start).take (stop - start)
    stretches := t.stretches.filterMap (Stretch.within? start stop) }

/-- The parts before, between and after some positions. Without any, the text is left as it is. -/
def divide (t : StyledText) (ps : List Nat) : List StyledText :=
  if ps.isEmpty then [t]
  else ((0 :: ps).zip (ps ++ [t.chars.length])).map fun (a, b) => t.slice a b

/-- The lines of a text, without the line feeds between them. -/
def lines (t : StyledText) : List StyledText :=
  let ps := positions (· == '\n') t.chars
  if ps.isEmpty then [t]
  else ((0 :: ps.map (· + 1)).zip (ps ++ [t.chars.length])).map fun (a, b) => t.slice a b

/-- A part up to and with a tab, where `col` cells come before it: blanks up to the next multiple of
eight cells stand for the tab. -/
def expandTab (col : Nat) (p : StyledText) : StyledText × Nat :=
  if p.chars.getLast? == some '\t' then
    let chars := p.chars.dropLast ++ [' ']
    let col := col + width chars
    let room := (8 - col % 8) % 8
    ({ p with
        chars := chars ++ blanks room
        stretches := p.stretches.map fun s =>
          if chars.length ≤ s.stop then { s with stop := s.stop + room } else s },
      col + room)
  else (p, col + width p.chars)

/-- Parts with their tabs expanded, where `col` cells come before them. -/
def expandParts (col : Nat) : List StyledText → List StyledText
  | [] => []
  | p :: rest => (p.expandTab col).1 :: expandParts (p.expandTab col).2 rest

/-- The stretches of parts put together from position `pos` on. A style for the whole text becomes a
stretch on each part. -/
def joinedStretches (pos : Nat) : List StyledText → List Stretch
  | [] => []
  | p :: rest =>
    (if p.styled then [⟨pos, pos + p.chars.length, none⟩] else []) ++
      p.stretches.map (·.shift pos) ++ joinedStretches (pos + p.chars.length) rest

/-- A line with blanks for its tabs. -/
def expandTabs (t : StyledText) : StyledText :=
  if t.chars.contains '\t' then
    let parts := expandParts 0
      ((t.divide ((positions (· == '\t') t.chars).map (· + 1))).filter (!·.chars.isEmpty))
    { t with chars := parts.flatMap chars, stretches := joinedStretches 0 parts }
  else t

/-- The text with other characters; stretches beyond them go if there are less than before. -/
def withChars (t : StyledText) (s : List Char) : StyledText :=
  { t with
    chars := s
    stretches := if s.length < t.chars.length then t.stretches.filterMap (Stretch.upTo? s.length)
      else t.stretches }

/-- The text with blanks after it. -/
def padRight (t : StyledText) (n : Nat) : StyledText :=
  { t with chars := t.chars ++ blanks n }

/-- The text with blanks before it. -/
def padLeft (t : StyledText) (n : Nat) : StyledText :=
  { t with chars := blanks n ++ t.chars, stretches := t.stretches.map (·.shift n) }

/-- The text without the blanks at its end. -/
def trimRight (t : StyledText) : StyledText :=
  t.withChars (Text.trimRight t.chars)

/-- The text without the blanks at its end that lie beyond `w` characters. -/
def dropExcessBlanks (w : Nat) (t : StyledText) : StyledText :=
  let excess := t.chars.length - w
  t.withChars (t.chars.take
    (t.chars.length - min excess (t.chars.length - (Text.trimRight t.chars).length)))

/-- The parts of a text between the ends of its stretches. -/
def segments (t : StyledText) : List (List Char) :=
  let bounds := (List.range t.chars.length).filter fun n =>
    0 < n && t.stretches.any fun s => s.start == n || s.stop == n
  ((0 :: bounds).zip (bounds ++ [t.chars.length])).map fun (a, b) => (t.chars.drop a).take (b - a)

end StyledText

/-- The beginning of some segments in `w` cells, cut in the one that does not fit. -/
def cutSegments (w : Nat) : List (List Char) → List Char
  | [] => []
  | s :: rest => if width s < w then s ++ cutSegments (w - width s) rest else fit w s

/-- Segments in `w` cells, cut or with blanks after them. -/
def fitSegments (w : Nat) (segments : List (List Char)) : List Char :=
  let size := total (segments.map width)
  if size ≤ w then segments.flatten ++ blanks (w - size) else cutSegments w segments

/-- The text in `w` cells. -/
def StyledText.fitted (w : Nat) (t : StyledText) : List Char :=
  fitSegments w t.segments

end ContractAudit.Terminal
