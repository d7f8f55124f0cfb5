/-
  The text of a range of bytes.

  * `excerpt` cuts the bytes of a text at two offsets and reads them as text again; a character cut
    in two leaves U+FFFD.
  * `between` counts a negative offset from the end and clips offsets to the text.
-/
import ContractAudit.SourceMap.Entry
import ContractAudit.Text.Utf8

namespace ContractAudit

/-- An offset clipped to `size`, counted from the end if it is negative. -/
def clip (size : Nat) (offset : Int) : Nat :=
  if offset < 0 then (size + offset).toNat else min offset.toNat size

/-- The bytes from offset `start` up to offset `stop`. -/
def between (bytes : List UInt8) (start stop : Int) : List UInt8 :=
  let first := clip bytes.length start
  (bytes.drop first).take (clip bytes.length stop - first)

/-- The text of the bytes from `start` up to `stop`. -/
def excerpt (text : String) (start stop : Int) : String :=
  Text.Utf8.decodeLossy (between (Text.Utf8.encode text) start stop)

/-- The text of a range. -/
def Span.excerpt (s : Span) (text : String) : String :=
  ContractAudit.excerpt text s.offset s.stop

end ContractAudit
