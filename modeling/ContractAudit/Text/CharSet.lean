/-
  Sets of characters given by the code points at which membership changes.

  * `CharSet.contains s c` holds if an odd number of change points are at or below `c`;
  * `CharSet.rank` counts those change points by bisection, so that a property of characters with
    some seven hundred ranges is decided in eleven steps.
-/

namespace ContractAudit

/-- A set of characters. `changes` is ascending; the character before the first change point is
outside the set. -/
structure CharSet where
  changes : Array Nat

namespace CharSet

/-- The number of change points at or below `n`, searched for between positions `lo` and `hi`. -/
def rank (changes : Array Nat) (n lo hi : Nat) : Nat :=
  if lo < hi then
    let mid := (lo + hi) / 2
    if changes.getD mid 0 ≤ n then rank changes n (mid + 1) hi else rank changes n lo mid
  else lo
termination_by hi - lo

/-- Membership: the last change point at or below the character entered the set. -/
def contains (s : CharSet) (c : Char) : Bool :=
  rank s.changes c.toNat 0 s.changes.size % 2 == 1

end CharSet

end ContractAudit
