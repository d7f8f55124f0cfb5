/-
  Lines and columns of byte offsets.

  * `LineTable.ofBytes` records where each line after the first starts: just after a line feed.
  * `LineTable.position` is the line and column of an offset: the line is the number of line starts
    at or below the offset, plus one, and the column the distance from the start of that line.
    Every offset has a position, also one past the end of the text.
-/
import ContractAudit.SourceMap.Entry
import ContractAudit.Text.Utf8

namespace ContractAudit

/-- A place in a text: the line counts from 1, the column from 0. -/
structure Position where
  line : Nat
  column : Nat
deriving DecidableEq, Repr

/-- Where the lines of a text start. -/
structure LineTable where
  /-- The starts of the lines after the first, in ascending order. -/
  starts : List Nat
  /-- The number of bytes. -/
  size : Nat
deriving DecidableEq, Repr

namespace LineTable

/-- The offsets just after the line feeds of bytes that begin at offset `n`. -/
def startsFrom (n : Nat) : List UInt8 → List Nat
  | [] => []
  | b :: rest => if b == 10 then (n + 1) :: startsFrom (n + 1) rest else startsFrom (n + 1) rest

/-- The table of the bytes of a text. -/
def ofBytes (bytes : List UInt8) : LineTable :=
  { starts := startsFrom 0 bytes, size := bytes.length }

/-- The table of a text. -/
def ofText (text : String) : LineTable :=
  ofBytes (Text.Utf8.encode text)

/-- The line starts at or below an offset. -/
def upTo (t : LineTable) (offset : Nat) : List Nat :=
  t.starts.takeWhile (· ≤ offset)

/-- The position of an offset. -/
def position (t : LineTable) (offset : Nat) : Position :=
  { line := (t.upTo offset).length + 1, column := offset - (t.upTo offset).getLast?.getD 0 }

/-- The positions of the start and the end of a range. -/
def range (t : LineTable) (s : Span) : Position × Position :=
  (t.position s.offset, t.position s.stop)

/-- The position of an offset that may be negative. -/
def position? (t : LineTable) (offset : Int) : Except LocationError Position :=
  if offset < 0 then .error (.invalid (Text.showInt offset) offset 0)
  else .ok (t.position offset.toNat)

/-- The positions of a range whose offset and length may be negative. -/
def range? (t : LineTable) (offset length : Int) : Except LocationError (Position × Position) :=
  if offset < 0 ∨ length < 0 then
    .error (.invalid (Text.showInt offset ++ ":" ++ Text.showInt length) offset length)
  else .ok (t.range ⟨offset.toNat, length.toNat⟩)

/-- A one-line description of the table. -/
def describe (t : LineTable) : String :=
  "LineBreakTable(lines=" ++ Text.showInt (t.starts.length + 1) ++ ", size=" ++
    Text.showInt t.size ++ ")"

end LineTable

end ContractAudit
