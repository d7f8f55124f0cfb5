/-
  Source map entries.

  * A source map token `offset:length:file`, possibly with further fields and further entries,
    tells which bytes of which file a piece of code comes from.
  * `Entry.parse` reads the first entry of a token.  Offset and length are natural numbers by type;
    the file index may be negative, which marks generated code.
  * `LocationError` says why a token gives no location.
-/
import ContractAudit.Json.Literal

namespace ContractAudit

/-- A range of bytes of one file. -/
structure Span where
  offset : Nat
  length : Nat
deriving DecidableEq, Repr

/-- The offset just after the range. -/
def Span.stop (s : Span) : Nat :=
  s.offset + s.length

/-- Why a token or an offset gives no location. -/
inductive LocationError where
  /-- The token lacks a field, or a field is no integer. -/
  | malformed (token : String)
  /-- An offset or a length is negative. -/
  | invalid (token : String) (offset length : Int)
deriving DecidableEq, Repr

namespace LocationError

/-- The token that was read. -/
def token : LocationError → String
  | malformed t => t
  | invalid t _ _ => t

/-- The message of the error. -/
def message : LocationError → String
  | malformed t => "Malformed source map token: " ++ Text.quoted t
  | invalid t offset length =>
    "Invalid source location " ++ Text.showInt offset ++ ":" ++ Text.showInt length ++
      " in token " ++ Text.quoted t

end LocationError

/-- One entry of a source map. -/
structure Entry where
  span : Span
  /-- The position of the file in the source list. -/
  file : Int
deriving DecidableEq, Repr

namespace Entry

/-- The fields of the first entry of a token. -/
def fields (token : List Char) : List (List Char) :=
  (Text.trim (token.takeWhile (· != ';'))).splitOn ':'

/-- Reads the first entry of a token; fields after the third are ignored. -/
def parse (token : String) : Except LocationError Entry :=
  match fields token.toList with
  | offset :: length :: file :: _ =>
    match Text.readInt? offset, Text.readInt? length, Text.readInt? file with
    | some o, some l, some f =>
      if o < 0 ∨ l < 0 then .error (.invalid token o l)
      else .ok { span := ⟨o.toNat, l.toNat⟩, file := f }
    | _, _, _ => .error (.malformed token)
  | _ => .error (.malformed token)

/-- Reads a token that came as a JSON value: only a text can be one. -/
def ofJson : Json → Except LocationError Entry
  | .str token => parse token
  | v => .error (.malformed v.literal)

end Entry

end ContractAudit
