/-
  What stands in a value under keys, each below the one before it.

  * `below?` follows keys into objects; what the operations on members answer is what it finds
    (`below?_of_get?`, `below?_of_get`), and a value that holds nothing may be taken for an object
    without members (`below?_orElse`).
  * `Opens`: the members of a member, where one that is missing or holds nothing has none.
-/
import ContractAudit.Json.Access

namespace ContractAudit.Json

/-- What stands under keys, each below the one before it. -/
def below? : Json → List String → Option Json
  | v, [] => some v
  | obj ms, key :: keys => (Keyed.lookup? key ms).bind (below? · keys)
  | _, _ :: _ => none

/-- A member of an object has these members; a missing one, and one that holds nothing, has none. -/
def Opens (v : Json) (key : String) (ms : Members) : Prop :=
  (v.get key).map (·.orElse (obj [])) = .ok (obj ms)

section
variable {v w : Json} {found : Option Json} {ms : Members} {key key' : String} {keys : List String}

theorem below?_of_not_isSet (h : v.isSet = false) : v.below? (key :: keys) = none := by
  cases v with
  | obj ms =>
    cases ms with
    | nil => rfl
    | cons => cases h
  | _ => rfl

@[simp] theorem below?_orElse :
    (v.orElse (obj [])).below? (key :: keys) = v.below? (key :: keys) := by
  rw [orElse]
  split
  · rfl
  · next h => rw [below?_of_not_isSet (Bool.eq_false_iff.2 h)]; rfl

theorem below?_of_get? (h : v.get? key = .ok found) :
    v.below? (key :: keys) = found.bind (below? · keys) := by
  cases v with
  | obj ms => cases h; rfl
  | _ => cases h

theorem get_eq_ok_iff :
    v.get key = .ok w ↔ ∃ found, v.get? key = .ok found ∧ found.getD null = w := by
  rw [get]
  cases v.get? key <;> simp [Except.map]

theorem below?_of_get (h : v.get key = .ok w) :
    w.below? (key' :: keys) = v.below? (key :: key' :: keys) := by
  obtain ⟨found, hfound, rfl⟩ := get_eq_ok_iff.1 h
  rw [below?_of_get? hfound]
  cases found <;> rfl

theorem Opens.exists_get (h : v.Opens key ms) :
    ∃ w, v.get key = .ok w ∧ w.orElse (obj []) = obj ms := by
  rw [Opens] at h
  cases hget : v.get key with
  | error d => rw [hget] at h; cases h
  | ok w =>
    rw [hget] at h
    exact ⟨w, rfl, Except.ok.inj h⟩

end

end ContractAudit.Json
