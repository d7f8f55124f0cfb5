/-
  Import directives.

  * A directive starts a line: blanks, the word `import`, anything but quotes and semicolons, a
    path between quotes, and anything up to a semicolon.  `directive?` reads one.
  * `importPaths` lists the paths of all directives of a source, in order.  What a directive covers
    is not looked at again, so a line inside a quoted path starts no other one.
-/
import ContractAudit.Text.Blank
import ContractAudit.Text.Word

namespace ContractAudit.Solidity

/-- The word that starts a directive. -/
def importWord : List Char := ['i', 'm', 'p', 'o', 'r', 't']

/-- Either of the quotes around a path. -/
def isQuote (c : Char) : Bool :=
  c == '"' || c == '\''

/-- The text after the word at its start, unless the word goes on. -/
def afterWord? (word s : List Char) : Option (List Char) :=
  if word.isPrefixOf s then
    match s.drop word.length with
    | [] => some []
    | c :: rest => if Text.isWord c then none else some (c :: rest)
  else none

/-- The path between the first quotes of a text that come before any semicolon, and the text after
it. -/
def quotedPath? (s : List Char) : Option (List Char × List Char) :=
  match s.dropWhile fun c => !isQuote c && c != ';' with
  | c :: rest =>
    let path := rest.takeWhile fun c => !isQuote c
    let after := rest.dropWhile fun c => !isQuote c
    if !isQuote c || path.isEmpty || after.isEmpty then none else some (path, after)
  | [] => none

/-- The text after the first character `c`. -/
def after? (c : Char) (s : List Char) : Option (List Char) :=
  match s.dropWhile (· != c) with
  | _ :: rest => some rest
  | [] => none

/-- The path of the directive at the start of a text, and the text after it. -/
def directive? (s : List Char) : Option (List Char × List Char) := do
  let rest ← afterWord? importWord (Text.trimLeft s)
  let (path, rest) ← quotedPath? rest
  let rest ← after? ';' rest
  pure (path, rest)

theorem length_lt_of_after? {c : Char} {s rest : List Char} (h : after? c s = some rest) :
    rest.length < s.length := by
  unfold after? at h
  split at h
  · next d t heq =>
    obtain rfl := Option.some.inj h
    have := (List.dropWhile_sublist (l := s) (· != c)).length_le
    rw [heq, List.length_cons] at this
    omega
  · simp at h

theorem length_le_of_quotedPath? {s path rest : List Char} (h : quotedPath? s = some (path, rest)) :
    rest.length ≤ s.length := by
  unfold quotedPath? at h
  split at h
  · next c t heq =>
    simp only at h
    split at h
    · simp at h
    · obtain ⟨-, rfl⟩ := Prod.mk.inj (Option.some.inj h)
      have h₁ := (List.dropWhile_sublist (l := t) fun c => !isQuote c).length_le
      have h₂ := (List.dropWhile_sublist (l := s) fun c => !isQuote c && c != ';').length_le
      rw [heq, List.length_cons] at h₂
      omega
  · simp at h

theorem length_le_of_afterWord? {word s rest : List Char} (h : afterWord? word s = some rest) :
    rest.length ≤ s.length := by
  unfold afterWord? at h
  split at h
  · split at h
    · obtain rfl := Option.some.inj h
      simp
    · next c t heq =>
      split at h
      · simp at h
      · obtain rfl := Option.some.inj h
        have := congrArg List.length heq
        simp only [List.length_drop, List.length_cons] at this ⊢
        omega
  · simp at h

/-- A directive leaves a shorter text. -/
theorem length_lt_of_directive? {s path rest : List Char}
    (h : directive? s = some (path, rest)) : rest.length < s.length := by
  simp only [directive?, Option.bind_eq_bind, Option.bind_eq_some_iff, Prod.exists, Option.pure_def,
    Option.some.injEq, Prod.mk.injEq] at h
  obtain ⟨r₁, h₁, p, r₂, h₂, r₃, h₃, -, rfl⟩ := h
  have := length_le_of_afterWord? h₁
  have := length_le_of_quotedPath? h₂
  have := length_lt_of_after? h₃
  have : (Text.trimLeft s).length ≤ s.length := (List.dropWhile_sublist _).length_le
  omega

/-- The paths of the directives in a text that starts at the start of a line. -/
def pathsFrom (s : List Char) : List String :=
  match _h : directive? s with
  | some (path, rest) =>
    String.ofList path ::
      match _h' : after? '\n' rest with
      | some next => pathsFrom next
      | none => []
  | none =>
    match _h' : after? '\n' s with
    | some next => pathsFrom next
    | none => []
termination_by s.length
decreasing_by
  · exact Nat.lt_trans (length_lt_of_after? ‹_›) (length_lt_of_directive? ‹_›)
  · exact length_lt_of_after? ‹_›

/-- The paths that a source imports. -/
def importPaths (source : String) : List String :=
  pathsFrom source.toList

end ContractAudit.Solidity
