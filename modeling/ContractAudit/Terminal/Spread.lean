/-
  Nested values over several lines.

  * A value whose literal is too long for its line is spread: its elements follow between the
    brackets, each on a line of its own that is indented by four blanks more.  An element that is
    too long in turn is spread in the same way.
  * A `Place` is what a line holds besides the value; `spread` gives the lines of a value.  What
    has no elements stays on one line, however long it is.  Any depth can be spread.
-/
import ContractAudit.Json.Literal
import ContractAudit.Terminal.Width

namespace ContractAudit.Terminal

/-- What a line holds besides a value. -/
structure Place where
  /-- The cells of the line. -/
  room : Nat
  /-- The blanks before the value. -/
  margin : Nat := 0
  /-- The key of the value with its colon, or nothing. -/
  label : String := ""
  /-- The cells kept for a comma and a blank. -/
  reserve : Nat := 0

namespace Place

/-- The line with a text in it. -/
def line (p : Place) (s : String) : String :=
  String.ofList (blanks p.margin) ++ p.label ++ s

/-- The line on which the value ends that began at this place. -/
def lastLine (p : Place) (s : String) : String :=
  String.ofList (blanks p.margin) ++ s

/-- Whether the value fits. -/
def holds (p : Place) (v : Json) : Bool :=
  p.margin + width p.label.toList + p.reserve + width v.literal.toList ≤ p.room

/-- The place of an element of the value at this place. -/
def inner (p : Place) : Place :=
  { room := p.room, margin := p.margin + 4, reserve := 2 }

end Place

/-- Lines with a comma after the last one, unless nothing follows. -/
def separated (follows : Bool) (lines : List String) : List String :=
  match lines.getLast? with
  | some l => if follows then lines.dropLast ++ [l ++ ","] else lines
  | none => []

mutual

/-- The lines of a value. -/
def spread (p : Place) : Json → List String
  | .arr xs =>
    if xs.isEmpty || p.holds (.arr xs) then [p.line (Json.arr xs).literal]
    else p.line "[" :: spreadElements p.inner xs ++ [p.lastLine "]"]
  | .obj ms =>
    if ms.isEmpty || p.holds (.obj ms) then [p.line (Json.obj ms).literal]
    else p.line "\x7b" :: spreadMembers p.inner ms ++ [p.lastLine "\x7d"]
  | v => [p.line v.literal]

/-- The lines of the elements of a list. -/
def spreadElements (p : Place) : List Json → List String
  | [] => []
  | x :: xs => separated (!xs.isEmpty) (spread p x) ++ spreadElements p xs

/-- The lines of the members of an object. -/
def spreadMembers (p : Place) : List (String × Json) → List String
  | [] => []
  | (k, v) :: ms =>
    separated (!ms.isEmpty) (spread { p with label := Text.quoted k ++ ": " } v) ++
      spreadMembers p ms

end

end ContractAudit.Terminal
