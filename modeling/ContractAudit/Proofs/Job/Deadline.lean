/-
  The deadline of a run.

  The deadline is `timeout` after the reading of the clock when the first query is over (`begun?`).

  * `waitsOf` lists the waits of a run, each with the reading of the clock at which it was asked
    for, and `InTime` says what the deadline demands of them and of the queries.
  * Each lemma on `Follows` is one of these demands on the rest of a run, by induction on it.  For
    the sum of all waits the induction carries what was `spent` so far, which the clock exceeds.
  * `awaitBy_inTime`: the runs of every back-off are in time, if the clock never goes back and no
    wait is too short.
-/
import ContractAudit.Proofs.Job.Exact

namespace ContractAudit.Job

/-! ## Waits and the deadline -/

section
variable {ε τ : Type}

/-- The time of a wait. -/
def Event.wait? : Event τ → Option τ
  | query _ => none
  | wait time => some time

/-- The waits among the sights, each with the reading of the clock before it; `now` is the reading
before all of them. -/
def waitsFrom (now : τ) : List (Sight ε τ) → List (τ × τ)
  | [] => []
  | .read t :: sights => waitsFrom t sights
  | .asked t _ :: sights => waitsFrom t sights
  | .waited time _ :: sights => (now, time) :: waitsFrom now sights

/-- The waits of a run, which starts with a query. -/
def waitsOf : List (Sight ε τ) → List (τ × τ)
  | .asked now _ :: sights => waitsFrom now sights
  | _ => []

/-- The reading of the clock from which the time of a run counts. -/
def begun? : List (Sight ε τ) → Option τ
  | .asked _ _ :: .read _ :: .read begun :: _ => some begun
  | _ => none

section
variable (now t time : τ) (answer : Except ε Observation) (isCancelled : Bool)
  (sights : List (Sight ε τ))

@[simp] theorem waitsFrom_nil : waitsFrom now ([] : List (Sight ε τ)) = [] := rfl

@[simp] theorem waitsFrom_read :
    waitsFrom now (.read t :: sights) = waitsFrom t sights := rfl

@[simp] theorem waitsFrom_asked :
    waitsFrom now (.asked t answer :: sights) = waitsFrom t sights := rfl

@[simp] theorem waitsFrom_waited :
    waitsFrom now (.waited time isCancelled :: sights) = (now, time) :: waitsFrom now sights := rfl

theorem map_snd_waitsFrom :
    (waitsFrom now sights).map Prod.snd = (eventsOf sights).filterMap Event.wait? := by
  induction sights generalizing now with
  | nil => rfl
  | cons x sights ih =>
    cases x with
    | read t => exact ih t
    | asked t answer => simpa [List.filterMap_cons, Event.wait?] using ih t
    | waited time isCancelled => simpa [List.filterMap_cons, Event.wait?] using ih now

end

end

/-- What the deadline demands of a run. -/
structure InTime {ε : Type} (timeout : ℚ) (sights : List (Sight ε ℚ)) : Prop where
  /-- No wait is negative, and none that starts in time goes beyond the deadline. -/
  waits : ∀ asked time, (asked, time) ∈ waitsOf sights → 0 ≤ time ∧
    ∃ begun, begun? sights = some begun ∧
      (asked ≤ begun + timeout → asked + time ≤ begun + timeout)
  /-- Every query but the first one starts before the deadline. -/
  queries : ∀ now answer, .asked now answer ∈ sights.tail →
    ∃ begun, begun? sights = some begun ∧ now < begun + timeout
  /-- All waits together are no longer than the time of the run. -/
  total : ((eventsOf sights).filterMap Event.wait?).sum ≤ timeout

/-! ## The rest of a run -/

section
variable {ε : Type} {plan : Plan ℚ} {started begun : ℚ} {round left : ℕ} {last : State ℚ}
  {sights : List (Sight ε ℚ)} {outcome : Except (Failure ε ℚ) (State ℚ)}

theorem Plan.waitAt_inTime {now time : ℚ} (h : plan.waitAt begun round now = .ok time) :
    0 ≤ time ∧ (now ≤ begun + plan.timeout → now + time ≤ begun + plan.timeout) := by
  refine ⟨Plan.waitAt_nonneg h, fun hnow => ?_⟩
  have := Plan.waitAt_le h (add_sub_cancel begun now).le (by linarith)
  linarith

namespace Follows

theorem waits_inTime (h : Follows plan started begun round left last sights outcome) (t : ℚ) :
    ∀ p ∈ waitsFrom t sights, 0 ≤ p.2 ∧
      (p.1 ≤ begun + plan.timeout → p.1 + p.2 ≤ begun + plan.timeout) := by
  induction h generalizing t with
  | exhausted | defect => simp
  | cancelled hat | timedOut hat | raised hat | finished hat =>
    simpa using Plan.waitAt_inTime hat
  | @pending _ _ _ now _ _ _ later _ _ hat _ _ _ ih =>
    simp only [waitsFrom_read, waitsFrom_waited, waitsFrom_asked, List.forall_mem_cons]
    exact ⟨Plan.waitAt_inTime hat, ih later⟩

/-- Every query starts before the deadline. -/
theorem query_lt (h : Follows plan started begun round left last sights outcome) :
    ∀ now answer, .asked now answer ∈ sights → now < begun + plan.timeout := by
  have hearly : ∀ {after : ℚ}, ¬ plan.timeout ≤ after - begun → after < begun + plan.timeout :=
    fun hlate => by linarith
  induction h with
  | exhausted | defect | cancelled | timedOut => simp
  | raised _ hlate | finished _ hlate => simpa using hearly hlate
  | pending _ hlate _ _ ih =>
    intro now answer hmem
    simp only [List.mem_cons, reduceCtorEq, Sight.asked.injEq, false_or] at hmem
    rcases hmem with ⟨rfl, -⟩ | hmem
    · exact hearly hlate
    · exact ih now answer hmem

/-- **The waits to come are no longer than what is left of the time.** What was spent so far has
passed on the clock. -/
theorem total_le (h : Follows plan started begun round left last sights outcome) {t spent : ℚ}
    (hpasses : PassesFrom t sights) (ht : begun + spent ≤ t) (hspent : spent ≤ plan.timeout) :
    spent + ((waitsFrom t sights).map Prod.snd).sum ≤ plan.timeout := by
  induction h generalizing t spent with
  | exhausted | defect => simpa using hspent
  | cancelled hat | timedOut hat | raised hat | finished hat =>
    simpa using Plan.waitAt_le hat (ht.trans hpasses.1) hspent
  | @pending _ _ _ now time after _ later _ _ hat _ _ _ ih =>
    obtain ⟨hnow, hafter, hlater, hrest⟩ := hpasses
    have hle : spent + time ≤ plan.timeout := Plan.waitAt_le hat (ht.trans hnow) hspent
    have hpassed : begun + (spent + time) ≤ later := by linarith
    simpa [add_assoc] using ih hrest hpassed hle

end Follows

/-- **A run by a plan is in time**, if its clock never goes back and no wait is too short. -/
theorem Awaits.inTime (h : Awaits plan sights outcome) (ht : 0 ≤ plan.timeout)
    (hsteady : Steady sights) : InTime plan.timeout sights := by
  cases h with
  | raised | finished =>
    exact {
      waits := by simp [waitsOf]
      queries := by simp
      total := by simpa [List.filterMap_cons, Event.wait?] using ht }
  | @pending started o now begun rest _ _ hfollows =>
    obtain ⟨_, -, -, -, hpasses⟩ := hsteady
    exact {
      waits := fun asked time hmem => by
        obtain ⟨hnonneg, hends⟩ := hfollows.waits_inTime begun (asked, time) hmem
        exact ⟨hnonneg, begun, rfl, hends⟩
      queries := fun t answer hmem => by
        simp only [List.tail_cons, List.mem_cons, reduceCtorEq, false_or] at hmem
        exact ⟨begun, rfl, hfollows.query_lt t answer hmem⟩
      total := by
        have := hfollows.total_le hpasses (add_zero begun).le ht
        rw [zero_add, map_snd_waitsFrom] at this
        simpa [List.filterMap_cons, Event.wait?] using this }

end

/-! ## Runs by a back-off -/

/-- **The deadline is respected**: whatever its world does, a run by a back-off is in time as soon
as the clock never goes back and no wait is too short. -/
theorem awaitBy_inTime {σ ε : Type} (w : World σ ε ℚ) {schedule : BackOff ℚ} (s : σ)
    (hd : 0 ≤ schedule.initialDelay) (ht : 0 ≤ schedule.timeout)
    (hn : 0 ≤ schedule.maxAttempts) :
    (∃ sights, w.SeesBy schedule s sights) ∧
      ∀ sights, w.SeesBy schedule s sights → Steady sights → InTime schedule.timeout sights :=
  ⟨w.exists_seesBy s hd ht hn, fun _ hsees hsteady => (hsees.awaits hd ht hn).inTime ht hsteady⟩

/-- Queries that take four seconds and waits that last a second too long: the last query before the
deadline ends after it, so there is no time left for the third wait. -/
theorem awaitBy_inTime_overslept :
    let w : World ℚ Unit ℚ :=
      { query := fun s => (.ok {}, s + 4)
        clock := fun s => (s, s)
        pause := fun t s => s + t + 1
        isCancelled := fun _ => false }
    let schedule : BackOff ℚ :=
      { initialDelay := 5, timeout := 20, maxAttempts := 3, divisor := some 2 }
    0 ≤ schedule.initialDelay ∧ 0 ≤ schedule.timeout ∧ 0 ≤ schedule.maxAttempts ∧
    (w.awaitBy schedule 0).events.filterMap Event.wait? = [5, 15 / 2, 0] ∧
    ∃ sights, w.SeesBy schedule 0 sights ∧ Steady sights ∧ InTime 20 sights := by
  intro w schedule
  have hd : 0 ≤ schedule.initialDelay := by decide
  have ht : 0 ≤ schedule.timeout := by decide
  have hn : 0 ≤ schedule.maxAttempts := by decide
  have hw : w.KeepsTime id :=
    { clock := fun s => ⟨le_refl s, le_refl s⟩
      query := fun s => by show s ≤ s + 4; linarith
      pause := fun t s _ => by show s + t ≤ s + t + 1; linarith }
  obtain ⟨⟨sights, hsees⟩, hall⟩ := awaitBy_inTime w 0 hd ht hn
  have hsteady : Steady sights := ⟨_, hw.passesFrom hsees.shown⟩
  exact ⟨hd, ht, hn, by decide +kernel, sights, hsees, hsteady, hall sights hsees hsteady⟩

end ContractAudit.Job
