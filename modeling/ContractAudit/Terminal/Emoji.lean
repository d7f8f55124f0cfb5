/-
  Emoji codes.

  * A code is the name of an emoji between colons, possibly with `-emoji` or `-text` after the name
    to choose how the character is drawn.  `withEmoji` and `pictured` put the characters for the
    codes.
  * Colons are paired from the left: a name that is no emoji stays, and its second colon does not
    start another code.
-/
import ContractAudit.Keyed
import ContractAudit.Terminal.EmojiTable
import ContractAudit.Text.Blank
import ContractAudit.Text.Lower

namespace ContractAudit.Terminal

/-- The name and the characters of an entry. -/
def emojiEntry (s : List Char) : String × List Char :=
  (String.ofList (s.takeWhile (· != '=')), (s.dropWhile (· != '=')).tail)

/-- All emoji by name. -/
def emojis : Keyed (List Char) :=
  emojiLines.flatMap fun line => (line.toList.splitOn ' ').map emojiEntry

/-- A name and the character that chooses how to draw, if one is chosen. -/
def emojiVariant (s : List Char) : List Char × List Char :=
  if "-emoji".toList.isSuffixOf s then (s.take (s.length - 6), ['\uFE0F'])
  else if "-text".toList.isSuffixOf s then (s.take (s.length - 5), ['\uFE0E'])
  else (s, [])

/-- The characters of the code between two colons. -/
def emoji? (code : List Char) : Option (List Char) :=
  let (name, variant) := emojiVariant code
  (Keyed.lookup? (String.ofList (Text.lowerChars name)) emojis).map (· ++ variant)

/-- What stands up to the next colon and what follows it, if there is one before any blank. -/
def codeAndRest? (s : List Char) : Option (List Char × List Char) :=
  match s.dropWhile fun c => c != ':' && !Text.isBlank c with
  | ':' :: rest => some (s.takeWhile fun c => c != ':' && !Text.isBlank c, rest)
  | _ => none

/-- What follows a code is shorter than the text. -/
theorem length_lt_of_codeAndRest? {s code rest : List Char}
    (h : codeAndRest? s = some (code, rest)) : rest.length < s.length := by
  unfold codeAndRest? at h
  split at h
  · next t heq =>
    obtain ⟨-, rfl⟩ := Prod.mk.inj (Option.some.inj h)
    have := (List.dropWhile_sublist (l := s) fun c => c != ':' && !Text.isBlank c).length_le
    rw [heq, List.length_cons] at this
    omega
  · simp at h

/-- The text with characters for emoji codes. -/
def withEmoji : List Char → List Char
  | [] => []
  | c :: rest =>
    if c == ':' then
      match _h : codeAndRest? rest with
      | some (code, after) =>
        (emoji? code).getD (':' :: code ++ [':']) ++ withEmoji after
      | none => c :: withEmoji rest
    else c :: withEmoji rest
termination_by s => s.length
decreasing_by
  · have := length_lt_of_codeAndRest? ‹_›
    simp only [List.length_cons]
    omega
  · simp
  · simp

/-- The text with emoji for their codes. -/
def pictured (s : String) : String :=
  String.ofList (withEmoji s.toList)

end ContractAudit.Terminal
