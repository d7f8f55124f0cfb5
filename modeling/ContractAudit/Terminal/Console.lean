/-
  Printing on the console.

  * `unwrapped` is a text as it is printed when lines may be as long as they want, `wrapped` one
    that is broken at the width of the console.  Both end with a line feed.
  * `marked` prints markup without its tags, and `echoed` a text as it is, but for the sequences
    that would set colours.
-/
import ContractAudit.Terminal.Markup
import ContractAudit.Terminal.Wrap

namespace ContractAudit.Terminal

/-- The width of the console. -/
def consoleWidth : Nat := 80

/-- Lines with a line feed after each. -/
def printed (lines : List StyledText) : String :=
  String.ofList (lines.flatMap fun l => l.chars ++ ['\n'])

/-- A text on lines of any length. -/
def unwrapped (s : String) : String :=
  printed ((StyledText.plain s).lines.map StyledText.expandTabs)

/-- A text on lines of the width of the console. -/
def wrapped (s : String) : String :=
  printed ((StyledText.plain s).wrap consoleWidth .fold)

/-- Markup on lines of any length. -/
def marked (s : String) : Except Defect String := do
  let lines := (← styledText s).lines.map StyledText.expandTabs
  lines.forM StyledText.resolveStyles
  pure (printed lines)

/-- The text after an escape sequence at its start: parameters and a letter. -/
def afterEscape? : List Char → Option (List Char)
  | '\x1b' :: '[' :: rest =>
    match rest.dropWhile fun c => c == ';' || c == '?' || ('0' ≤ c && c ≤ '9') with
    | c :: after => if c.isAlpha then some after else none
    | [] => none
  | _ => none

/-- What follows an escape sequence is shorter than the text. -/
theorem length_lt_of_afterEscape? {s rest : List Char} (h : afterEscape? s = some rest) :
    rest.length < s.length := by
  unfold afterEscape? at h
  split at h
  · next t =>
    split at h
    · next c after heq =>
      split at h
      · obtain rfl := Option.some.inj h
        have := (List.dropWhile_sublist (l := t)
          fun c => c == ';' || c == '?' || ('0' ≤ c && c ≤ '9')).length_le
        rw [heq, List.length_cons] at this
        simp only [List.length_cons]
        omega
      · simp at h
    · simp at h
  · simp at h

/-- The text without escape sequences. -/
def withoutEscapes (s : List Char) : List Char :=
  match _h : afterEscape? s with
  | some rest => withoutEscapes rest
  | none =>
    match s with
    | [] => []
    | c :: rest => c :: withoutEscapes rest
termination_by s.length
decreasing_by
  · exact length_lt_of_afterEscape? ‹_›
  · simp

/-- A line feed for a carriage return and a line feed. -/
def withoutReturns : List Char → List Char
  | [] => []
  | '\r' :: '\n' :: rest => '\n' :: withoutReturns rest
  | c :: rest => c :: withoutReturns rest

/-- A text and a line feed. -/
def echoed (s : String) : String :=
  String.ofList (withoutReturns (withoutEscapes (s.toList ++ ['\n'])))

end ContractAudit.Terminal
