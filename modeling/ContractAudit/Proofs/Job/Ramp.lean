/-
  Ramps that fill the time of a run.

  * `BackOff.interval_eq` and `BackOff.sum_step`: the intervals of a back-off are `BackOff.step`,
    which sum up to what the sum of squares makes of the time that the first wait leaves.
  * `BackOff.sum_step_default`: without another divisor they sum up to the time of the run, or to
    the first wait if that is longer.
  * `Plan.Fills`: the intervals of a plan are known and last until the deadline.  A round that ends
    before the deadline has waited for its whole interval (`Plan.sum_lt_of_early`), so the last one
    cannot, and `Follows.not_exhausted` counts the queries that are left.
  * `awaitBy_default_fills`: hence no run by a default back-off uses all of its waits up.
-/
import Mathlib.Algebra.BigOperators.Ring.Finset
import Mathlib.Algebra.Order.BigOperators.Group.Finset
import Mathlib.Tactic.Positivity
import ContractAudit.Proofs.Answers
import ContractAudit.Proofs.Job.Exact
import ContractAudit.Proofs.Job.Safety

namespace ContractAudit.Job

/-! ## The intervals of a back-off -/

theorem squareSum_eq (n : ℕ) : (squareSum n : ℚ) = ∑ r ∈ Finset.range n, (r : ℚ) ^ 2 := by
  induction n with
  | zero => rfl
  | succ n ih =>
    have hsucc : squareSum (n + 1) = squareSum n + n * n := by
      rw [squareSum, List.range_succ, List.map_append, total_append]
      simp [squareSum, total]
    rw [Finset.sum_range_succ, ← ih, hsucc]
    push_cast
    rw [sq]

theorem rampWeight_eq {n : ℤ} (hn : 2 ≤ n) :
    (rampWeight n : ℚ) = ∑ r ∈ Finset.range n.toNat, (r : ℚ) ^ 2 := by
  have hpos : (0 : ℚ) < ∑ r ∈ Finset.range n.toNat, (r : ℚ) ^ 2 :=
    Finset.sum_pos' (fun r _ => by positivity) ⟨1, Finset.mem_range.2 (by omega), by norm_num⟩
  rw [← squareSum_eq] at hpos ⊢
  rw [rampWeight, if_neg (Nat.cast_pos.1 hpos).ne']

namespace BackOff
variable (s : BackOff ℚ)

/-- The interval number `r`. -/
def step (r : ℕ) : ℚ :=
  if r = 0 then s.initialDelay else s.span / s.weight * (r : ℚ) ^ 2

theorem interval_eq (hw : 0 < s.weight) (r : ℕ) : s.interval r = .ok (s.step r) := by
  rcases Nat.eq_zero_or_pos r with rfl | hr
  · rw [s.interval_zero, step, if_pos rfl]
  · rw [s.interval_of_pos hw hr, step, if_neg hr.ne']

theorem sum_step {n : ℕ} (hn : 0 < n) : ∑ r ∈ Finset.range n, s.step r =
    s.initialDelay + s.span / s.weight * ∑ r ∈ Finset.range n, (r : ℚ) ^ 2 := by
  obtain ⟨m, rfl⟩ := Nat.exists_eq_succ_of_ne_zero hn.ne'
  have hstep : ∀ r, s.step (r + 1) = s.span / s.weight * ((r + 1 : ℕ) : ℚ) ^ 2 :=
    fun r => if_neg (Nat.succ_ne_zero r)
  have hzero : s.step 0 = s.initialDelay := if_pos rfl
  rw [Finset.sum_range_succ', Finset.sum_range_succ', Finset.sum_congr rfl fun r _ => hstep r,
    ← Finset.mul_sum, hzero, Nat.cast_zero, zero_pow two_ne_zero, add_zero, add_comm]

variable {s}

theorem weight_eq (hdefault : s.divisor = none) (hn : 2 ≤ s.maxAttempts) :
    s.weight = ∑ r ∈ Finset.range s.maxAttempts.toNat, (r : ℚ) ^ 2 := by
  rw [weight, hdefault, Option.getD_none, rampWeight_eq hn]

/-- **The default intervals fill the time**, unless the first one is longer already. -/
theorem sum_step_default (hdefault : s.divisor = none) (hn : 2 ≤ s.maxAttempts) :
    ∑ r ∈ Finset.range s.maxAttempts.toNat, s.step r = max s.timeout s.initialDelay := by
  have hpos : s.weight ≠ 0 := (s.weight_pos (by simp [hdefault])).ne'
  rw [s.sum_step (by omega), ← weight_eq hdefault hn, div_mul_cancel₀ _ hpos, span,
    ← max_add_add_left, add_sub_cancel, add_zero]

end BackOff

/-! ## Plans that fill their time -/

/-- The intervals of the plan are `f`, and they last until the deadline. -/
structure Plan.Fills (plan : Plan ℚ) (f : ℕ → ℚ) : Prop where
  interval : ∀ r < plan.waits, plan.interval r = .ok (f r)
  timeout_le : plan.timeout ≤ ∑ r ∈ Finset.range plan.waits, f r

section
variable {ε : Type} {plan : Plan ℚ} {f : ℕ → ℚ} {started begun : ℚ} {round left : ℕ}
  {last : State ℚ} {sights : List (Sight ε ℚ)} {outcome : Except (Failure ε ℚ) (State ℚ)}

/-- **After a round that ends before the deadline, all intervals up to it have passed.** -/
theorem Plan.sum_lt_of_early (hf : plan.Fills f) {now time after : ℚ} (hround : round < plan.waits)
    (hat : plan.waitAt begun round now = .ok time)
    (hnow : begun + ∑ r ∈ Finset.range round, f r ≤ now) (hafter : now + time ≤ after)
    (hearly : ¬ plan.timeout ≤ after - begun) :
    begun + ∑ r ∈ Finset.range (round + 1), f r ≤ after ∧ round + 1 < plan.waits := by
  obtain ⟨interval, hi, hle⟩ := Plan.interval_le_of_waitAt hat (by linarith)
  rw [hf.interval round hround] at hi
  cases hi
  have hpassed : begun + ∑ r ∈ Finset.range (round + 1), f r ≤ after := by
    rw [Finset.sum_range_succ]
    linarith
  refine ⟨hpassed, lt_of_le_of_ne hround ?_⟩
  -- all intervals together last until the deadline
  intro hlast
  have hfills := hf.timeout_le
  rw [← hlast] at hfills
  linarith

/-- **A run by such a plan does not use its waits up**: one of them is followed by no query. -/
theorem Follows.not_exhausted (hf : plan.Fills f)
    (h : Follows plan started begun round left last sights outcome) {t : ℚ}
    (hleft : round + left = plan.waits) (hround : round < plan.waits)
    (hpasses : PassesFrom t sights) (ht : begun + ∑ r ∈ Finset.range round, f r ≤ t) :
    round + (answersOf sights).length < plan.waits ∧
      ∀ state, outcome ≠ .error (.exhausted state) := by
  induction h generalizing t with
  | exhausted => exact absurd hleft hround.ne
  | defect | cancelled | timedOut => exact ⟨hround, nofun⟩
  | raised hat hearly | finished hat hearly =>
    obtain ⟨hnow, hafter, -⟩ := hpasses
    exact ⟨(Plan.sum_lt_of_early hf hround hat (ht.trans hnow) hafter hearly).2, nofun⟩
  | pending hat hearly _ _ ih =>
    obtain ⟨hnow, hafter, hlater, hrest⟩ := hpasses
    obtain ⟨hpassed, hnext⟩ :=
      Plan.sum_lt_of_early hf hround hat (ht.trans hnow) hafter hearly
    obtain ⟨hcount, houtcome⟩ := ih (by omega) hnext hrest (hpassed.trans hlater)
    refine ⟨?_, houtcome⟩
    simp only [answersOf_read, answersOf_waited, answersOf_asked, List.length_cons]
    omega

/-- A run by such a plan makes no more queries than the plan has waits. -/
theorem Awaits.not_exhausted (hf : plan.Fills f) (hwaits : 0 < plan.waits)
    (h : Awaits plan sights outcome) (hsteady : Steady sights) :
    (answersOf sights).length ≤ plan.waits ∧ ∀ state, outcome ≠ .error (.exhausted state) := by
  cases h with
  | raised | finished => exact ⟨hwaits, nofun⟩
  | pending _ hfollows =>
    obtain ⟨_, -, -, -, hpasses⟩ := hsteady
    obtain ⟨hcount, houtcome⟩ := hfollows.not_exhausted hf (zero_add _) hwaits hpasses (by simp)
    refine ⟨?_, houtcome⟩
    simp only [answersOf_read, answersOf_asked, List.length_cons]
    omega

theorem length_answersOf (sights : List (Sight ε ℚ)) :
    (answersOf sights).length = (eventsOf sights).countP Event.isQuery := by
  induction sights with
  | nil => rfl
  | cons x sights ih => cases x <;> simp [List.countP_cons, Event.isQuery, ih]

end

/-! ## Runs by a default back-off -/

/-- **The default back-off spends all of its time before its last query**: its intervals sum up to
the time of the run, so that a run with a clock that never goes back and no wait that is too short
does not end for want of attempts, and makes at most as many queries as it has attempts. -/
theorem awaitBy_default_fills {σ ε : Type} (w : World σ ε ℚ) {schedule : BackOff ℚ} (s : σ)
    (hdefault : schedule.divisor = none) (hn : 2 ≤ schedule.maxAttempts)
    (hd : 0 ≤ schedule.initialDelay) (ht : 0 ≤ schedule.timeout) :
    (∀ r : ℕ, 0 < r → schedule.interval r =
      .ok (max (schedule.timeout - schedule.initialDelay) 0 /
        (∑ i ∈ Finset.range schedule.maxAttempts.toNat, (i : ℚ) ^ 2) * (r : ℚ) ^ 2)) ∧
    (schedule.initialDelay ≤ schedule.timeout → ∃ intervals,
      (List.range schedule.maxAttempts.toNat).mapM schedule.interval = .ok intervals ∧
        intervals.sum = schedule.timeout) ∧
    (∃ sights, w.SeesBy schedule s sights) ∧
    ∀ sights, w.SeesBy schedule s sights → Steady sights →
      (∀ state, (w.awaitBy schedule s).outcome ≠ .error (.exhausted state)) ∧
        ((w.awaitBy schedule s).events.countP Event.isQuery : ℤ) ≤ schedule.maxAttempts := by
  have hn₀ : 0 ≤ schedule.maxAttempts := by omega
  have hw : 0 < schedule.weight := schedule.weight_pos (by simp [hdefault])
  refine ⟨fun r hr => ?_, fun hle => ?_, w.exists_seesBy s hd ht hn₀,
    fun sights hsees hsteady => ?_⟩
  · rw [schedule.interval_of_pos hw hr, BackOff.weight_eq hdefault hn, BackOff.span]
  · refine ⟨_, mapM_eq_ok_map fun r _ => schedule.interval_eq hw r, ?_⟩
    show ∑ r ∈ Finset.range schedule.maxAttempts.toNat, schedule.step r = _
    rw [BackOff.sum_step_default hdefault hn, max_eq_left hle]
  · have hfills : schedule.planned.Fills schedule.step :=
      { interval := fun r _ => schedule.interval_eq hw r
        timeout_le := (BackOff.sum_step_default hdefault hn).symm ▸ le_max_left _ _ }
    have hwaits : 0 < schedule.planned.waits := by
      show 0 < schedule.maxAttempts.toNat
      omega
    obtain ⟨hcount, houtcome⟩ :=
      (hsees.awaits hd ht hn₀).not_exhausted hfills hwaits hsteady
    refine ⟨houtcome, ?_⟩
    rw [← hsees.events, ← length_answersOf]
    have : schedule.planned.waits = schedule.maxAttempts.toNat := rfl
    omega

/-- A job that stays pending, at ten attempts in three minutes: the last wait ends at the deadline,
and no eleventh query is made. -/
theorem awaitBy_default_fills_pending :
    let w : World ℚ Unit ℚ :=
      { query := fun s => (.ok {}, s)
        clock := fun s => (s, s)
        pause := fun t s => s + t
        isCancelled := fun _ => false }
    let schedule : BackOff ℚ := { initialDelay := 20, timeout := 180 }
    schedule.divisor = none ∧ 2 ≤ schedule.maxAttempts ∧ 0 ≤ schedule.initialDelay ∧
    0 ≤ schedule.timeout ∧
    (∃ intervals, (List.range 10).mapM schedule.interval = .ok intervals ∧ intervals.sum = 180) ∧
    (w.awaitBy schedule 0).world = 180 ∧
    (∀ state, (w.awaitBy schedule 0).outcome ≠ .error (.exhausted state)) ∧
    (w.awaitBy schedule 0).events.countP Event.isQuery ≤ 10 := by
  intro w schedule
  have hn : 2 ≤ schedule.maxAttempts := by decide
  have hd : 0 ≤ schedule.initialDelay := by decide
  have ht : 0 ≤ schedule.timeout := by decide
  have hw : w.KeepsTime id :=
    { clock := fun s => ⟨le_refl s, le_refl s⟩
      query := fun s => le_refl s
      pause := fun t s _ => le_refl (s + t) }
  obtain ⟨-, hintervals, ⟨sights, hsees⟩, hall⟩ := awaitBy_default_fills w 0 rfl hn hd ht
  obtain ⟨houtcome, hcount⟩ := hall sights hsees ⟨_, hw.passesFrom hsees.shown⟩
  have hten : ((w.awaitBy schedule 0).events.countP Event.isQuery : ℤ) ≤ 10 := hcount
  exact ⟨rfl, hn, hd, ht, hintervals (by decide), by decide +kernel, houtcome, by omega⟩

end ContractAudit.Job
