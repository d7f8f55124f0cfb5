/-
  Totals of counts.
-/

namespace ContractAudit

/-- The sum of some numbers. -/
def total : List Nat → Nat
  | [] => 0
  | n :: ns => n + total ns

/-- Two lists have the total of their totals together. -/
theorem total_append (xs ys : List Nat) : total (xs ++ ys) = total xs + total ys := by
  induction xs with
  | nil => simp [total]
  | cons n ns ih => simp [total, ih, Nat.add_assoc]

/-- The total is zero iff each number is. -/
theorem total_eq_zero_iff {ns : List Nat} : total ns = 0 ↔ ∀ n ∈ ns, n = 0 := by
  induction ns with
  | nil => simp [total]
  | cons n ns ih => rw [total, Nat.add_eq_zero_iff, ih, List.forall_mem_cons]

end ContractAudit
