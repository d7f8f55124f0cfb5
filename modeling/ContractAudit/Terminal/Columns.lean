/-
  Widths of the columns of a table.

  * Columns get their natural widths if these fit.
  * Else the widest columns that may shrink are reduced, first to the width of the next widest, and
    so on until the excess is gone or all are equal; then all columns are reduced evenly.
  * `reduce` shares an amount out among columns: each gets the rounded quotient of what is left by
    the number of columns left, a half going to the even neighbour.
-/
import ContractAudit.Decimal.Shortest
import ContractAudit.Total

namespace ContractAudit.Terminal

/-- A column before its width is settled; padding is included. -/
structure Column where
  natural : Nat
  /-- Whether the width is fixed, so that the column does not shrink before all do. -/
  fixed : Bool
deriving DecidableEq, Repr

/-- Takes `amount` away from the values marked, in `count` shares of at most `most` each. -/
def reduce (amount count : Nat) : List (Bool × Nat × Nat) → List Nat
  | [] => []
  | (marked, most, value) :: rest =>
    if marked && 0 < count then
      let share := min most (Decimal.nearest amount count)
      (value - share) :: reduce (amount - share) (count - 1) rest
    else value :: reduce amount count rest

/-- The greatest of some numbers. -/
def greatest (ns : List Nat) : Nat :=
  ns.foldl max 0

/-- Reduces the widest columns that may shrink until the widths sum up to `available` or those
columns are equal. -/
def shrink (available : Nat) (fixed : List Bool) (widths : List Nat) (fuel : Nat) : List Nat :=
  match fuel with
  | 0 => widths
  | fuel + 1 =>
    let excess := total widths - available
    let free := (widths.zip fixed).filterMap fun (w, f) => if f then none else some w
    let widest := greatest free
    let second := greatest (free.filter (· != widest))
    if excess = 0 ∨ widest = second then widths
    else
      let most := min excess (widest - second)
      let marked := (widths.zip fixed).map fun (w, f) => (!f && w == widest, most, w)
      shrink available fixed (reduce excess (marked.countP (·.1)) marked) fuel

/-- The widths of the columns in `available` cells. -/
def columnWidths (available : Nat) (columns : List Column) : List Nat :=
  let widths := columns.map fun c => max 1 (min c.natural available)
  if total widths ≤ available then widths
  else
    let fixed := columns.map Column.fixed
    let shrunk :=
      if fixed.all id then widths else shrink available fixed widths (total widths + 1)
    let excess := total shrunk - available
    let even :=
      if excess = 0 then shrunk
      else reduce excess (shrunk.countP (0 < ·)) (shrunk.map fun w => (decide (0 < w), w, w))
    (even.zip columns).map fun (w, c) => min w c.natural

end ContractAudit.Terminal
