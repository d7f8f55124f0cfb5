/-
  Sorted and distinct values.

  * `perm_of_sortBy`: sorting keeps what is sorted, and `checkOrdered_ints`: integers always have an
    order;
  * `distinct_texts`: of a list of texts, `distinct` leaves what `List.eraseDups` does.
-/
import ContractAudit.Json.Order
import ContractAudit.Proofs.Answers
import ContractAudit.Proofs.Distinct

namespace ContractAudit.Json

/-! ## Sorting -/

theorem less_int (n m : Int) : (int n).less (int m) = .ok (decide (n < m)) := by
  simp [less, ratio?, Ratio.less, Ratio.ofInt, Ratio.isNumber]

/-- Integers can be sorted. -/
theorem checkOrdered_ints (ns : List Int) : checkOrdered (ns.map int) = .ok () := by
  have hforM (n : Int) (ms : List Int) :
      ((ms.map int).forM fun l => do discard ((int n).less l) : Except Defect Unit) = .ok () := by
    induction ms with
    | nil => rfl
    | cons m ms ih =>
      rw [List.map_cons, List.forM, less_int, ih]
      rfl
  induction ns with
  | nil => rfl
  | cons n ns ih =>
    rw [List.map_cons, checkOrdered, hforM, ih]
    rfl

theorem perm_of_sortBy {α : Type} {pairs : List (Json × α)} {xs : List α}
    (h : sortBy pairs = .ok xs) : xs.Perm (pairs.map (·.2)) := by
  rw [sortBy, bind_eq_ok] at h
  obtain ⟨-, -, hsorted⟩ := h
  obtain rfl := Except.ok.inj hsorted
  exact (List.mergeSort_perm _ _).map _

/-! ## Distinct texts -/

theorem same_str (s t : String) : (str s).same (str t) = (s == t) := by
  simp [same]

theorem distinct_texts (xs : List String) : distinct (xs.map str) = xs.eraseDups.map str := by
  induction xs using List.reverseRecOn with
  | nil => rfl
  | append_singleton xs x ih =>
    have hany : (xs.eraseDups.map str).any (str x).same = decide (x ∈ xs) := by
      rw [Bool.eq_iff_iff]
      simp [same_str]
    rw [distinct] at ih
    rw [distinct, List.map_append, List.foldl_append, ih, eraseDups_concat, List.map_singleton,
      List.foldl_cons, List.foldl_nil, hany]
    by_cases hx : x ∈ xs <;> simp [hx]

end ContractAudit.Json
