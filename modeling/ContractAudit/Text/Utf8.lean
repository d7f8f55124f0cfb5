/-
  UTF-8: the bytes of a text and the text of bytes.

  * `encode` concatenates the encodings of the characters;
  * `sequences` cuts bytes into encoded characters and broken sequences, a broken one being the
    longest run of bytes that some character begins with, or else a single byte;
  * `decode?` accepts bytes without a broken sequence, and `decodeLossy` writes U+FFFD for each.

  Texts are sequences of Unicode characters throughout.  The half of a surrogate pair is none, so
  every text has its bytes.
-/

namespace ContractAudit.Text.Utf8

/-- The bytes of a text. -/
def encode (s : String) : List UInt8 :=
  s.toList.flatMap String.utf8EncodeChar

/-- A byte that continues a sequence. -/
def isContinuation (b : UInt8) : Bool :=
  0x80 ≤ b && b ≤ 0xBF

/-- Whether `b` may be the second byte after the first byte `a`: no overlong form, no surrogate and
nothing beyond U+10FFFF begins this way. -/
def isSecond (a b : UInt8) : Bool :=
  if a == 0xE0 then 0xA0 ≤ b && b ≤ 0xBF
  else if a == 0xED then 0x80 ≤ b && b ≤ 0x9F
  else if a == 0xF0 then 0x90 ≤ b && b ≤ 0xBF
  else if a == 0xF4 then 0x80 ≤ b && b ≤ 0x8F
  else isContinuation b

/-- The six payload bits of a continuation byte. -/
def payload (b : UInt8) : Nat :=
  b.toNat % 64

/-- The sequence that starts with the byte `a`: its character, or none if it is broken, and the
number of bytes that it takes of those after `a`. -/
def sequence (a : UInt8) (rest : List UInt8) : Option Char × Nat :=
  if a < 0x80 then (some (Char.ofNat a.toNat), 0)
  else if 0xC2 ≤ a && a ≤ 0xDF then
    match rest with
    | b :: _ =>
      if isContinuation b then (some (Char.ofNat (a.toNat % 32 * 64 + payload b)), 1) else (none, 0)
    | [] => (none, 0)
  else if 0xE0 ≤ a && a ≤ 0xEF then
    match rest with
    | b :: c :: _ =>
      if isSecond a b then
        if isContinuation c then
          (some (Char.ofNat ((a.toNat % 16 * 64 + payload b) * 64 + payload c)), 2)
        else (none, 1)
      else (none, 0)
    | [b] => (none, if isSecond a b then 1 else 0)
    | [] => (none, 0)
  else if 0xF0 ≤ a && a ≤ 0xF4 then
    match rest with
    | b :: c :: d :: _ =>
      if isSecond a b then
        if isContinuation c then
          if isContinuation d then
            (some (Char.ofNat
              (((a.toNat % 8 * 64 + payload b) * 64 + payload c) * 64 + payload d)), 3)
          else (none, 2)
        else (none, 1)
      else (none, 0)
    | [b, c] => (none, if isSecond a b then if isContinuation c then 2 else 1 else 0)
    | [b] => (none, if isSecond a b then 1 else 0)
    | [] => (none, 0)
  else (none, 0)

/-- The sequences that the bytes consist of; `none` stands for a broken one. -/
def sequences : List UInt8 → List (Option Char)
  | [] => []
  | a :: rest => (sequence a rest).1 :: sequences (rest.drop (sequence a rest).2)
termination_by bs => bs.length
decreasing_by simp only [List.length_drop, List.length_cons]; omega

/-- The text that the bytes encode, if no sequence is broken. -/
def decode? (bs : List UInt8) : Option String :=
  ((sequences bs).mapM id).map String.ofList

/-- The text of the bytes, with U+FFFD for each broken sequence. -/
def decodeLossy (bs : List UInt8) : String :=
  String.ofList ((sequences bs).map (·.getD '\uFFFD'))

end ContractAudit.Text.Utf8
