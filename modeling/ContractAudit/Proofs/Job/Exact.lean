/-
  Back-offs in exact arithmetic.

  Times are rational numbers here, so that no result is rounded or out of range.

  * `BackOff.interval_of_pos`: the interval `r` steps up the ramp is the time that the first wait
    leaves, divided by `BackOff.weight` and times `r²`; nothing fails where the weight is positive.
  * `clamped_eq` and `Plan.waitAt_eq_ok`: the wait of a round is its interval, cut to the time left.
  * `PassesFrom now sights`: the clock never goes back from `now` on, and every wait lasts at least
    as long as it was asked for.  `World.KeepsTime.passesFrom`: such are the sights of a world with
    a time of its own that its clock shows.
  * `World.SeesBy` joins a run by a back-off with what it sees; each run sees something
    (`World.exists_seesBy`).
-/
import Mathlib.Algebra.BigOperators.Group.Finset.Basic
import Mathlib.Algebra.Order.Field.Rat
import Mathlib.Tactic.Linarith
import ContractAudit.Job.Schedule
import ContractAudit.Proofs.Job.Trace

namespace ContractAudit.Job

/-! ## Intervals -/

/-- Exact arithmetic, in which `(√x · r)²` is `x · r²`. Only a divisor of zero and the root of a
negative number have no result. -/
instance : Reckoning ℚ where
  whole n := n
  measured t := .ok t
  minus t u := .ok (t - u)
  risen span divisor count :=
    if divisor = 0 then .error .divisionByZero
    else if span / divisor < 0 then .error .outOfDomain
    else .ok (span / divisor * count ^ 2)

theorem nonNegative_eq (t : ℚ) : nonNegative t = max t 0 := by
  rw [nonNegative]
  split
  · rename_i h
    exact (max_eq_right h.le).symm
  · rename_i h
    exact (max_eq_left (not_lt.1 h)).symm

theorem clamped_eq (interval left : ℚ) : clamped interval left = max (min interval left) 0 := by
  rw [clamped, nonNegative_eq]
  congr 1
  split
  · rename_i h
    exact (min_eq_right h.le).symm
  · rename_i h
    exact (min_eq_left (not_lt.1 h)).symm

theorem rampWeight_pos (n : ℤ) : 0 < rampWeight n := by
  rw [rampWeight]
  split
  · exact Nat.one_pos
  · rename_i h
    exact Nat.pos_of_ne_zero h

namespace BackOff
variable (s : BackOff ℚ)

/-- What the ramp is divided by. -/
def weight : ℚ :=
  s.divisor.getD (rampWeight s.maxAttempts)

/-- The time that the first wait leaves. -/
def span : ℚ :=
  max (s.timeout - s.initialDelay) 0

theorem span_nonneg : 0 ≤ s.span := le_max_right _ _

theorem weight_pos (h : ∀ d, s.divisor = some d → 0 < d) : 0 < s.weight := by
  rw [weight]
  cases hd : s.divisor with
  | none => exact Nat.cast_pos.2 (rampWeight_pos _)
  | some d => exact h d hd

theorem interval_zero : s.interval 0 = .ok s.initialDelay := by
  show s.intervalAt ((0 : ℕ) : ℚ) = _
  rw [intervalAt, if_pos (le_of_eq Nat.cast_zero)]

/-- **The intervals of a ramp grow with the square of their number.** -/
theorem interval_of_pos (hw : 0 < s.weight) {r : ℕ} (hr : 0 < r) :
    s.interval r = .ok (s.span / s.weight * (r : ℚ) ^ 2) := by
  have hcount : ¬ ((r : ℕ) : ℚ) ≤ 0 := not_le.2 (Nat.cast_pos.2 hr)
  have hratio : ¬ s.span / s.weight < 0 := not_lt.2 (div_nonneg s.span_nonneg hw.le)
  have hrisen : Reckoning.risen s.span s.weight (r : ℚ) =
      .ok (s.span / s.weight * (r : ℚ) ^ 2) := by
    show (if s.weight = 0 then _ else _) = _
    rw [if_neg hw.ne', if_neg hratio]
  show s.intervalAt ((r : ℕ) : ℚ) = _
  rw [intervalAt, if_neg hcount, ramp, ← hrisen, weight, span, ← nonNegative_eq]
  cases s.divisor <;> rfl

/-- The times of a back-off as a plan. -/
def planned : Plan ℚ :=
  { timeout := s.timeout, waits := s.maxAttempts.toNat, interval := s.interval }

/-- A back-off without negative numbers is planned as it is. -/
theorem plan_eq_ok (hd : 0 ≤ s.initialDelay) (ht : 0 ≤ s.timeout) (hn : 0 ≤ s.maxAttempts) :
    s.plan = .ok s.planned := by
  have htimes : ¬ (s.initialDelay < 0 ∨ s.timeout < 0) := by
    rintro (h | h)
    · exact absurd hd (not_le.2 h)
    · exact absurd ht (not_le.2 h)
  rw [plan, if_neg htimes, if_neg (not_lt.2 hn)]
  rfl

end BackOff

/-! ## The wait of a round -/

section
variable {plan : Plan ℚ} {begun now time : ℚ} {round : ℕ}

theorem Plan.waitAt_eq_ok (h : plan.waitAt begun round now = .ok time) :
    ∃ interval, plan.interval round = .ok interval ∧
      time = max (min interval (begun + plan.timeout - now)) 0 := by
  rw [Plan.waitAt] at h
  cases hi : plan.interval round with
  | error d => rw [hi] at h; cases h
  | ok interval =>
    rw [hi] at h
    exact ⟨interval, rfl, (Except.ok.inj h).symm.trans (clamped_eq _ _)⟩

theorem Plan.waitAt_nonneg (h : plan.waitAt begun round now = .ok time) : 0 ≤ time := by
  obtain ⟨interval, -, rfl⟩ := Plan.waitAt_eq_ok h
  exact le_max_right _ _

theorem Plan.waitAt_le (h : plan.waitAt begun round now = .ok time) {spent : ℚ}
    (hnow : begun + spent ≤ now) (hspent : spent ≤ plan.timeout) : spent + time ≤ plan.timeout := by
  obtain ⟨interval, -, rfl⟩ := Plan.waitAt_eq_ok h
  rcases max_cases (min interval (begun + plan.timeout - now)) 0 with ⟨hm, -⟩ | ⟨hm, -⟩
  · rw [hm]
    have := min_le_right interval (begun + plan.timeout - now)
    linarith
  · rw [hm]
    linarith

/-- A wait that is over before the deadline has lasted for its whole interval. -/
theorem Plan.interval_le_of_waitAt (h : plan.waitAt begun round now = .ok time)
    (hearly : now + time < begun + plan.timeout) :
    ∃ interval, plan.interval round = .ok interval ∧ interval ≤ time := by
  obtain ⟨interval, hi, rfl⟩ := Plan.waitAt_eq_ok h
  refine ⟨interval, hi, ?_⟩
  by_contra hlong
  have hcut : begun + plan.timeout - now ≤
      max (min interval (begun + plan.timeout - now)) 0 := by
    rcases min_cases interval (begun + plan.timeout - now) with ⟨hm, -⟩ | ⟨hm, -⟩
    · rw [hm] at hlong
      exact absurd (le_max_left _ _) hlong
    · rw [hm]
      exact le_max_left _ _
  linarith

end

/-! ## Clocks -/

section
variable {σ ε : Type}

/-- The clock never goes back from `now` on, and every wait lasts at least as long as it was asked
for. -/
def PassesFrom (now : ℚ) : List (Sight ε ℚ) → Prop
  | [] => True
  | .read t :: sights => now ≤ t ∧ PassesFrom t sights
  | .asked t _ :: sights => now ≤ t ∧ PassesFrom t sights
  | .waited time _ :: sights => PassesFrom (now + time) sights

/-- The clock never goes back and no wait is too short. -/
def Steady (sights : List (Sight ε ℚ)) : Prop :=
  ∃ now, PassesFrom now sights

theorem PassesFrom.mono {now earlier : ℚ} {sights : List (Sight ε ℚ)} (h : PassesFrom now sights)
    (he : earlier ≤ now) : PassesFrom earlier sights := by
  induction sights generalizing now earlier with
  | nil => trivial
  | cons x sights ih =>
    cases x with
    | read t => exact ⟨he.trans h.1, h.2⟩
    | asked t answer => exact ⟨he.trans h.1, h.2⟩
    | waited time isCancelled => exact ih h (add_le_add_left he time)

/-- The world has a time of its own that never goes back, that its clock shows and that waits take
up. -/
structure World.KeepsTime (w : World σ ε ℚ) (time : σ → ℚ) : Prop where
  clock : ∀ s, time s ≤ (w.clock s).1 ∧ (w.clock s).1 ≤ time (w.clock s).2
  query : ∀ s, time s ≤ time (w.query s).2
  pause : ∀ t s, 0 < t → time s + t ≤ time (w.pause t s)

/-- Whatever a world with a time of its own shows, its clock never goes back. -/
theorem World.KeepsTime.passesFrom {w : World σ ε ℚ} {time : σ → ℚ} (hw : w.KeepsTime time)
    {s s' : σ} {sights : List (Sight ε ℚ)} (h : w.Shows s sights s') :
    PassesFrom (time s) sights := by
  induction h with
  | nil => trivial
  | @read s now s₁ sights s' hclock _ ih =>
    have hs := hw.clock s
    rw [hclock] at hs
    exact ⟨hs.1, ih.mono hs.2⟩
  | @asked s now s₁ answer s₂ sights s' hclock hquery _ ih =>
    have hs := hw.clock s
    have hs₁ := hw.query s₁
    rw [hclock] at hs
    rw [hquery] at hs₁
    exact ⟨hs.1, ih.mono (hs.2.trans hs₁)⟩
  | @waited s t s₁ isCancelled sights s' hwait _ _ ih =>
    refine ih.mono ?_
    rw [← hwait, World.wait]
    split
    · exact hw.pause t s ‹0 < t›
    · linarith

end

/-! ## Runs by a back-off -/

section
variable {σ ε : Type} (w : World σ ε ℚ) (schedule : BackOff ℚ) (s : σ)

/-- What the run by a back-off sees. -/
structure World.SeesBy (sights : List (Sight ε ℚ)) : Prop where
  shown : w.Shows s sights (w.awaitBy schedule s).world
  events : eventsOf sights = (w.awaitBy schedule s).events
  allowed : ∃ plan, schedule.plan = .ok plan ∧ Awaits plan sights (w.awaitBy schedule s).outcome

variable {schedule}

variable {w s} in
theorem World.SeesBy.awaits {sights : List (Sight ε ℚ)} (h : w.SeesBy schedule s sights)
    (hd : 0 ≤ schedule.initialDelay) (ht : 0 ≤ schedule.timeout) (hn : 0 ≤ schedule.maxAttempts) :
    Awaits schedule.planned sights (w.awaitBy schedule s).outcome := by
  obtain ⟨plan, hplan, hawaits⟩ := h.allowed
  rw [schedule.plan_eq_ok hd ht hn] at hplan
  exact Except.ok.inj hplan ▸ hawaits

/-- **Every run sees something.** -/
theorem World.exists_seesBy (hd : 0 ≤ schedule.initialDelay) (ht : 0 ≤ schedule.timeout)
    (hn : 0 ≤ schedule.maxAttempts) : ∃ sights, w.SeesBy schedule s sights := by
  have hplan := schedule.plan_eq_ok hd ht hn
  have hrun : w.awaitBy schedule s = w.await schedule.planned s := by rw [World.awaitBy, hplan]
  obtain ⟨sights, hshows, hevents, hawaits⟩ := w.await_awaits schedule.planned s
  rw [← hrun] at hshows hevents hawaits
  exact ⟨sights, hshows, hevents, _, hplan, hawaits⟩

end

end ContractAudit.Job
