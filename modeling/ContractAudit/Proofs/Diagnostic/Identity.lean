/-
  The identity of a diagnostic determines its fields.

  * `ruleLink_eq_iff`: two rules have one page iff they are equal, an empty one being none;
  * `identity_eq_iff`: two diagnostics have one identity iff the fields of their keys are equal,
    since the key is a record of plain values;
  * `identity_faithful`: hence they have one identity iff they agree in all but their findings;
  * `isFatal_eq_of_identity_eq`: the identity determines whether a diagnostic is an error;
  * `unresolved_identity_eq_iff`, `placed_identity_eq_iff` and `unresolved_identity_ne_placed`: what
    two findings have in common if their diagnostics for one path and one text have one identity.
-/
import ContractAudit.Diagnostic
import ContractAudit.Proofs.Json.Records
import ContractAudit.Proofs.SourceMap.Position

namespace ContractAudit

/-- **Two rules have one page iff they are equal**, up to an empty one. -/
theorem ruleLink_eq_iff {r s : Option String} :
    ruleLink r = ruleLink s ↔ r.getD "" = s.getD "" := by
  have hlink : ∀ t : Option String, ruleLink t = if t.getD "" = "" then noRuleLink
      else "https://smartcontractsecurity.github.io/SWC-registry/docs/" ++ t.getD "" := by
    rintro (_ | t) <;> rfl
  have hpage : ∀ t : String, noRuleLink ≠
      "https://smartcontractsecurity.github.io/SWC-registry/docs/" ++ t := by
    intro t h
    have hchars := congrArg String.toList h
    rw [String.toList_append] at hchars
    exact absurd (List.cons.inj hchars).1 (by decide)
  rw [hlink, hlink]
  by_cases hr : r.getD "" = "" <;> by_cases hs : s.getD "" = ""
  · simp [hr, hs]
  · simp [hr, hs, hpage]
  · simp [hr, hs, (hpage _).symm]
  · simp [hr, hs]

theorem Severity.name_injective : Function.Injective Severity.name
  | .fatal, .fatal, _ | .warning, .warning, _ => rfl
  | .fatal, .warning, h | .warning, .fatal, h => absurd h (by decide)

namespace Json

theorem ofText?_isPlain : ∀ s : Option String, (ofText? s).isPlain = true
  | none | some _ => rfl

theorem ofText?_injective : Function.Injective ofText?
  | none, none, _ => rfl
  | some _, some _, h => by rw [str.inj h]

end Json

namespace Diagnostic

/-- **Diagnostics are told apart by the fields of their keys.** -/
theorem identity_eq_iff {d e : Diagnostic} :
    d.identity = e.identity ↔ d.keyFields = e.keyFields := by
  have hplain : ∀ d : Diagnostic, ∀ m ∈ d.keyFields, m.2.isPlain = true := by
    intro d
    simp only [keyFields, List.forall_mem_cons]
    exact ⟨rfl, rfl, rfl, rfl, rfl, rfl, rfl, rfl, Json.ofText?_isPlain _, Json.ofText?_isPlain _,
      nofun⟩
  constructor
  · exact Json.write_record_inj rfl (hplain d) (hplain e)
  · intro h
    rw [identity, identity, h]

/-- **The identity is faithful.** Two diagnostics have one identity iff they are equal but for their
findings, whatever their texts hold, whether one is set or not, and however large their numbers
are. -/
theorem identity_faithful (d e : Diagnostic) :
    d.identity = e.identity ↔ { d with finding := none } = { e with finding := none } := by
  rw [identity_eq_iff]
  constructor
  · intro h
    simp only [keyFields, List.cons.injEq, Prod.mk.injEq, Json.str.injEq, Json.int.injEq,
      Int.natCast_inj, true_and, and_true] at h
    obtain ⟨hpath, hmessage, hname, hline, hcolumn, hendLine, hendColumn, hrule, hvendor,
      hsnippet⟩ := h
    have hseverity := Severity.name_injective hname
    -- a text that is not set is written as null, which no text is
    have hvendor := Json.ofText?_injective hvendor
    have hsnippet := Json.ofText?_injective hsnippet
    simp only [hpath, hmessage, hseverity, hline, hcolumn, hendLine, hendColumn, hrule, hvendor,
      hsnippet]
  · -- the key does not look at the finding
    intro h
    have hkeys := congrArg keyFields h
    exact hkeys

/-- A text that reads like the end of a field and the next one, and a severity that reads like one
that is not set. -/
example :
    let d : Diagnostic := { filePath := "a", message := "m\",\"severity\":\"fatal" }
    d.identity ≠ { d with message := "m", severity := .fatal }.identity ∧
      d.identity ≠ { d with vendorSeverity := some "null" }.identity := by
  decide +kernel

theorem isFatal_eq_of_identity_eq {d e : Diagnostic} (h : d.identity = e.identity) :
    d.isFatal = e.isFatal := by
  rw [identity_eq_iff] at h
  simp only [keyFields, List.cons.injEq, Prod.mk.injEq, Json.str.injEq, true_and] at h
  obtain ⟨-, -, hseverity, -⟩ := h
  rw [isFatal, isFatal, Severity.name_injective hseverity]

variable {f g : Finding} {path : Option String}

/-- Without positions, the description, the severity and the rule make up the identity. -/
theorem unresolved_identity_eq_iff :
    (unresolved f path).identity = (unresolved g path).identity ↔
      f.description.head = g.description.head ∧ f.severity = g.severity ∧
        f.swcId.getD "" = g.swcId.getD "" := by
  rw [identity_eq_iff, ← ruleLink_eq_iff]
  constructor
  · intro h
    simp only [keyFields, unresolved, List.cons.injEq, Prod.mk.injEq, Json.str.injEq, true_and,
      and_true] at h
    obtain ⟨hhead, -, hrule, hseverity⟩ := h
    exact ⟨hhead, Json.ofText?_injective hseverity, hrule⟩
  · rintro ⟨hhead, hseverity, hrule⟩
    simp only [keyFields, unresolved, hhead, hseverity, hrule]

/-- With positions, the range counts as well. -/
theorem placed_identity_eq_iff {s t : Span} {text : String} {table : LineTable} :
    ((unresolved f path).placed s text table).identity =
        ((unresolved g path).placed t text table).identity ↔
      s = t ∧ f.description.head = g.description.head ∧ f.severity = g.severity ∧
        f.swcId.getD "" = g.swcId.getD "" := by
  rw [identity_eq_iff, ← ruleLink_eq_iff]
  constructor
  · intro h
    simp only [keyFields, placed, unresolved, List.cons.injEq, Prod.mk.injEq, Json.str.injEq,
      Json.int.injEq, Int.natCast_inj, true_and, and_true] at h
    obtain ⟨hhead, -, hline, hcolumn, hendLine, hendColumn, hrule, hseverity, -⟩ := h
    have hrange : table.range s = table.range t :=
      Prod.ext (Position.ext hline hcolumn) (Position.ext hendLine hendColumn)
    exact ⟨table.range_injective hrange, hhead, Json.ofText?_injective hseverity, hrule⟩
  · -- the snippet is cut out by the range, so it agrees as well
    rintro ⟨rfl, hhead, hseverity, hrule⟩
    simp only [keyFields, placed, unresolved, hhead, hseverity, hrule]

theorem unresolved_identity_ne_placed {t : Span} {text : String} {table : LineTable} :
    (unresolved f path).identity ≠ ((unresolved g path).placed t text table).identity := by
  rw [Ne, identity_eq_iff]
  intro h
  simp only [keyFields, placed, unresolved, List.cons.injEq, Prod.mk.injEq, Json.int.injEq,
    true_and] at h
  obtain ⟨-, -, hline, -⟩ := h
  omega

end Diagnostic

end ContractAudit
