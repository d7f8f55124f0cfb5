/-
  Back-off schedules.

  * The first wait of a schedule is `initialDelay`; the waits after it grow with the square of
    their number, so that all of them together last `timeout`.
  * A `BackOff` has times of any type that can be reckoned with (`Reckoning`), so that it can be
    studied in exact arithmetic; a `Schedule` is one in the times of clocks.
  * `BackOff.plan` refuses negative times and numbers; a time that is out of range only fails once
    it is reckoned with.
-/
import ContractAudit.Decimal.Form
import ContractAudit.Job.Time
import ContractAudit.Job.Waiting
import ContractAudit.Text.Numeral
import ContractAudit.Total

namespace ContractAudit.Job

/-! ## Reckoning with times -/

/-- How a schedule reckons with times, where a result may be out of range. -/
class Reckoning (τ : Type) where
  /-- A whole number of seconds. -/
  whole : Nat → τ
  /-- A time as clocks measure it. -/
  measured : τ → Except Defect τ
  /-- The difference of two times. -/
  minus : τ → τ → Except Defect τ
  /-- The time that is `count` steps up a ramp: the square of `√(span / divisor) · count`. -/
  risen : (span divisor count : τ) → Except Defect τ

/-- The square of a number, which must not leave the range of numbers. A library function for powers
may differ from the product in the last bit. -/
def squared (x : Float) : Except Defect Float :=
  let y := x * x
  if y.isInf && !x.isInf then .error .overflow else .ok y

/-- Clocks measure floating-point numbers, and so is the result of a square root. -/
instance : Reckoning Time where
  whole n := .whole n
  measured t := Time.real <$> t.float
  minus := Time.minus
  risen span divisor count := do
    let ratio ← span.dividedBy divisor
    if ratio < 0 then throw .outOfDomain
    Time.real <$> squared (ratio.sqrt * (← count.float))

theorem Time.measured_eq (t : Time) : Reckoning.measured t = Time.real <$> t.float := rfl

/-! ## Schedules -/

/-- When to query a job again. -/
structure BackOff (τ : Type) where
  initialDelay : τ
  timeout : τ
  maxAttempts : Int := 10
  /-- What the ramp is divided by, if it is not the default of the number of attempts. -/
  divisor : Option τ := none

/-- When to query a job again, in the times of clocks. -/
abbrev Schedule := BackOff Time

/-- The sum of `r²` over `r < n`. -/
def squareSum (n : Nat) : Nat :=
  total ((List.range n).map fun r => r * r)

/-- The number by which the ramp of `n` attempts is divided to fill the time, and one if there are
no waits that grow. -/
def rampWeight (n : Int) : Nat :=
  if squareSum n.toNat = 0 then 1 else squareSum n.toNat

/-- The divisor of `n` attempts as a floating-point number. -/
def defaultDivisor (n : Int) : Except Defect Float :=
  (Time.whole (rampWeight n)).float

namespace BackOff

section
variable {τ : Type} [LT τ] [DecidableLT τ] [LE τ] [DecidableLE τ] [OfNat τ 0] [Reckoning τ]

/-- The wait that is `count` steps up the ramp. -/
def ramp (s : BackOff τ) (count : τ) : Except Defect τ := do
  let divisor ← match s.divisor with
    | some d => pure d
    | none => Reckoning.measured (Reckoning.whole (rampWeight s.maxAttempts))
  let span := nonNegative (← Reckoning.minus s.timeout s.initialDelay)
  Reckoning.risen span divisor count

/-- The time to wait before query number `attempt` after the first. -/
def intervalAt (s : BackOff τ) (attempt : τ) : Except Defect τ :=
  if attempt ≤ 0 then .ok s.initialDelay else s.ramp attempt

/-- The time to wait before query number `attempt` after the first. -/
def interval (s : BackOff τ) (attempt : Nat) : Except Defect τ :=
  s.intervalAt (Reckoning.whole attempt)

/-- The plan of a schedule. -/
def plan (s : BackOff τ) : Except Defect (Plan τ) :=
  if s.initialDelay < 0 ∨ s.timeout < 0 then .error .negativeTime
  else if s.maxAttempts < 0 then .error .negativeAttempts
  else
    match Reckoning.measured s.timeout with
    | .ok _ => .ok { timeout := s.timeout, waits := s.maxAttempts.toNat, interval := s.interval }
    | .error d => .ok (.failing s.timeout d)

end

end BackOff

/-- Waits for a job to end by a schedule. -/
def World.awaitBy {σ ε τ : Type} [Add τ] [Sub τ] [LT τ] [DecidableLT τ] [LE τ] [DecidableLE τ]
    [OfNat τ 0] [Reckoning τ] (w : World σ ε τ) (schedule : BackOff τ) (s : σ) : Run σ ε τ :=
  match schedule.plan with
  | .error d => ⟨.error (.defect d), [], s⟩
  | .ok plan => w.await plan s

/-- The message of a run that ended without a terminal status, unless a query failed. -/
def Failure.message? {ε : Type} : Failure ε Time → Option String
  | timedOut timeout last => some ("Analysis did not finish within " ++
      Decimal.general timeout.toFloat ++ "s (last status: " ++ last.status.name ++ ")")
  | exhausted last => some ("Analysis did not finish after " ++ Text.showInt last.attemptsMade ++
      " status queries (last status: " ++ last.status.name ++ ")")
  | cancelled => some "Polling cancelled"
  | query _ => none
  | defect _ => none

end ContractAudit.Job
