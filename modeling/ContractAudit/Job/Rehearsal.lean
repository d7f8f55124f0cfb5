/-
  Runs against a job whose answers are known beforehand.

  * A `Script` lists the answers of a job, with the time that each of them takes; the last one
    repeats.  It also says how much longer waits last, and after which of them the run is cancelled.
  * `Script.world` is the world of such a run, on a clock that starts at zero and only moves with
    answers and waits.
-/
import ContractAudit.Job.Time
import ContractAudit.Job.Waiting

namespace ContractAudit.Job

/-- An answer, and the time it takes. -/
structure Reply (ε : Type) where
  outcome : Except ε Observation
  cost : Float := 0

/-- The answers and delays of a rehearsed run. -/
structure Script (ε : Type) where
  first : Reply ε
  later : List (Reply ε) := []
  oversleep : Float := 0
  /-- The number of waits after which the run is cancelled. -/
  cancelAfter : Option Int := none
  /-- Whether waits take no time. -/
  standsStill : Bool := false

/-- The moment of a rehearsal. -/
structure Moment (ε : Type) where
  now : Float := 0
  waits : Nat := 0
  current : Reply ε
  later : List (Reply ε)

namespace Script
variable {ε : Type}

/-- The moment at which a rehearsal starts. -/
def start (p : Script ε) : Moment ε :=
  { current := p.first, later := p.later }

/-- The world of a rehearsal. -/
def world (p : Script ε) : World (Moment ε) ε Time where
  query m :=
    let next := match m.later with
      | [] => m
      | r :: rest => { m with current := r, later := rest }
    (m.current.outcome, { next with now := m.now + m.current.cost })
  clock m := (.real m.now, m)
  pause time m :=
    if p.standsStill then m
    else { m with now := m.now + (time.toFloat + p.oversleep), waits := m.waits + 1 }
  isCancelled m := match p.cancelAfter with
    | none => false
    | some n => if n = 0 then true else decide (0 < n ∧ n ≤ m.waits)

end Script

end ContractAudit.Job
