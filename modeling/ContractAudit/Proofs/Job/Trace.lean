/-
  What a run sees, apart from the world that shows it.

  * A `Sight` is a reading of the clock, an answer or a wait, and `w.Shows s sights s'` says that
    the world `w` shows these sights in turn, from the state `s` on to `s'`.
  * `Follows` and `Awaits` are the sequences of sights that a plan allows, each with the outcome it
    leads to: a rule for every way in which a round goes on or ends.
  * `follow_follows` and `await_awaits`: a run sees such a sequence, its events are the queries and
    waits in it, and its outcome is the one that the sequence leads to.

  What holds of all runs is thus proved of `Awaits` by induction, whatever the world is.
-/
import ContractAudit.Job.Waiting

namespace ContractAudit.Job

/-- What the world shows to a run. -/
inductive Sight (ε τ : Type) where
  /-- A reading of the clock. -/
  | read (now : τ)
  /-- The answer to a query, and the reading of the clock right before it. -/
  | asked (now : τ) (answer : Except ε Observation)
  /-- A wait, and whether the run was cancelled when it was over. -/
  | waited (time : τ) (isCancelled : Bool)

section
variable {ε τ : Type}

/-- The event that a sight belongs to. -/
def Sight.event? : Sight ε τ → Option (Event τ)
  | read _ => none
  | asked now _ => some (.query now)
  | waited time _ => some (.wait time)

/-- The answer that is seen. -/
def Sight.answer? : Sight ε τ → Option (Except ε Observation)
  | asked _ answer => some answer
  | _ => none

/-- The queries and the waits of a run. -/
def eventsOf (sights : List (Sight ε τ)) : List (Event τ) :=
  sights.filterMap Sight.event?

/-- The answers to the queries of a run. -/
def answersOf (sights : List (Sight ε τ)) : List (Except ε Observation) :=
  sights.filterMap Sight.answer?

section
variable (now time : τ) (answer : Except ε Observation) (isCancelled : Bool)
  (sights : List (Sight ε τ))

@[simp] theorem eventsOf_nil : eventsOf ([] : List (Sight ε τ)) = [] := rfl

@[simp] theorem eventsOf_read : eventsOf (.read now :: sights) = eventsOf sights := rfl

@[simp] theorem eventsOf_asked :
    eventsOf (.asked now answer :: sights) = .query now :: eventsOf sights := rfl

@[simp] theorem eventsOf_waited :
    eventsOf (.waited time isCancelled :: sights) = .wait time :: eventsOf sights := rfl

@[simp] theorem answersOf_nil : answersOf ([] : List (Sight ε τ)) = [] := rfl

@[simp] theorem answersOf_read : answersOf (.read now :: sights) = answersOf sights := rfl

@[simp] theorem answersOf_asked :
    answersOf (.asked now answer :: sights) = answer :: answersOf sights := rfl

@[simp] theorem answersOf_waited :
    answersOf (.waited time isCancelled :: sights) = answersOf sights := rfl

end

theorem exists_asked_of_mem {answer : Except ε Observation} {sights : List (Sight ε τ)}
    (h : answer ∈ answersOf sights) : ∃ now, .asked now answer ∈ sights := by
  obtain ⟨sight, hsight, hanswer⟩ := List.mem_filterMap.1 h
  cases sight with
  | asked now answer' =>
    obtain rfl : answer' = answer := Option.some.inj hanswer
    exact ⟨now, hsight⟩
  | read | waited => cases hanswer

end

/-! ## Worlds -/

section
variable {σ ε τ : Type} [LT τ] [DecidableLT τ] [OfNat τ 0]

/-- `w.Shows s sights s'`: from `s` on the world shows the sights in turn, and is in `s'` then. -/
inductive World.Shows (w : World σ ε τ) : σ → List (Sight ε τ) → σ → Prop
  | nil {s} : w.Shows s [] s
  | read {s now s₁ sights s'} : w.clock s = (now, s₁) → w.Shows s₁ sights s' →
      w.Shows s (.read now :: sights) s'
  | asked {s now s₁ answer s₂ sights s'} : w.clock s = (now, s₁) → w.query s₁ = (answer, s₂) →
      w.Shows s₂ sights s' → w.Shows s (.asked now answer :: sights) s'
  | waited {s time s₁ isCancelled sights s'} : w.wait time s = s₁ →
      w.isCancelled s₁ = isCancelled → w.Shows s₁ sights s' →
      w.Shows s (.waited time isCancelled :: sights) s'

variable [Sub τ]

/-- The state that an answer shows after `made` earlier ones, by a clock that reads `now`. -/
def Observation.state (o : Observation) (made : Nat) (started now : τ) : State τ :=
  { status := o.status
    attemptsMade := made + 1
    elapsedTime := nonNegative (now - started)
    vendorStatus := o.vendorStatus }

variable {w : World σ ε τ} {started : τ} {made : Nat} {s s' : σ}

theorem World.observe_of_error {e : ε} (h : w.query s = (.error e, s')) :
    w.observe started made s = (.error e, s') := by
  rw [World.observe, h]

theorem World.observe_of_ok {now : τ} {s₁ : σ} {o : Observation} (h : w.query s = (.ok o, s₁))
    (hnow : w.clock s₁ = (now, s')) :
    w.observe started made s = (.ok (o.state made started now), s') := by
  rw [World.observe, h]
  simp only [hnow]
  rfl

end

/-! ## Plans -/

section
variable {ε τ : Type} [Add τ] [Sub τ] [LT τ] [DecidableLT τ] [LE τ] [OfNat τ 0]

/-- The wait of a round that begins when the clock reads `now`. -/
def Plan.waitAt (plan : Plan τ) (begun : τ) (round : Nat) (now : τ) : Except Defect τ :=
  (plan.interval round).map fun interval => clamped interval (begun + plan.timeout - now)

/-- `Follows plan started begun round left last sights outcome`: with `left` more rounds to come
after the query that showed `last`, a run may see the sights, and then it has the outcome. -/
inductive Follows (plan : Plan τ) (started begun : τ) :
    (round left : Nat) → State τ → List (Sight ε τ) → Except (Failure ε τ) (State τ) → Prop
  | exhausted {round last} : Follows plan started begun round 0 last [] (.error (.exhausted last))
  | defect {round left last d} : plan.interval round = .error d →
      Follows plan started begun round (left + 1) last [] (.error (.defect d))
  | cancelled {round left last now time} : plan.waitAt begun round now = .ok time →
      Follows plan started begun round (left + 1) last [.read now, .waited time true]
        (.error .cancelled)
  | timedOut {round left last now time after} : plan.waitAt begun round now = .ok time →
      plan.timeout ≤ after - begun →
      Follows plan started begun round (left + 1) last
        [.read now, .waited time false, .read after] (.error (.timedOut plan.timeout last))
  | raised {round left last now time after e} : plan.waitAt begun round now = .ok time →
      ¬ plan.timeout ≤ after - begun →
      Follows plan started begun round (left + 1) last
        [.read now, .waited time false, .asked after (.error e)] (.error (.query e))
  | finished {round left last now time after o later} : plan.waitAt begun round now = .ok time →
      ¬ plan.timeout ≤ after - begun → o.status.isTerminal = true →
      Follows plan started begun round (left + 1) last
        [.read now, .waited time false, .asked after (.ok o), .read later]
        (.ok (o.state last.attemptsMade started later))
  | pending {round left last now time after o later sights outcome} :
      plan.waitAt begun round now = .ok time →
      ¬ plan.timeout ≤ after - begun → o.status.isTerminal = false →
      Follows plan started begun (round + 1) left (o.state last.attemptsMade started later) sights
        outcome →
      Follows plan started begun round (left + 1) last
        (.read now :: .waited time false :: .asked after (.ok o) :: .read later :: sights) outcome

/-- `Awaits plan sights outcome`: a run by the plan may see the sights, and then it has the
outcome. -/
inductive Awaits (plan : Plan τ) : List (Sight ε τ) → Except (Failure ε τ) (State τ) → Prop
  | raised {started e} : Awaits plan [.asked started (.error e)] (.error (.query e))
  | finished {started o now} : o.status.isTerminal = true →
      Awaits plan [.asked started (.ok o), .read now] (.ok (o.state 0 started now))
  | pending {started o now begun sights outcome} : o.status.isTerminal = false →
      Follows plan started begun 0 plan.waits (o.state 0 started now) sights outcome →
      Awaits plan (.asked started (.ok o) :: .read now :: .read begun :: sights) outcome

end

/-! ## Runs -/

section
variable {σ ε τ : Type} [Add τ] [Sub τ] [LT τ] [DecidableLT τ] [LE τ] [DecidableLE τ] [OfNat τ 0]
  (w : World σ ε τ) (plan : Plan τ)

/-- **The rest of a run sees what its plan allows.** -/
theorem World.follow_follows (started begun : τ) (round left : Nat) (last : State τ) (s : σ) :
    ∃ sights, w.Shows s sights (w.follow plan started begun round left last s).world ∧
      eventsOf sights = (w.follow plan started begun round left last s).events ∧
      Follows plan started begun round left last sights
        (w.follow plan started begun round left last s).outcome := by
  induction left generalizing round last s with
  | zero => exact ⟨[], .nil, rfl, .exhausted⟩
  | succ left ih =>
    cases hi : plan.interval round with
    | error d =>
      simp only [World.follow, hi]
      exact ⟨[], .nil, rfl, .defect hi⟩
    | ok interval =>
      -- from here on a case for each test of the round, which is a rule of `Follows`
      rcases hnow : w.clock s with ⟨now, s₁⟩
      generalize htime : clamped interval (begun + plan.timeout - now) = time
      have hat : plan.waitAt begun round now = .ok time := by rw [Plan.waitAt, hi, ← htime]; rfl
      generalize hwait : w.wait time s₁ = s₂
      cases hc : w.isCancelled s₂ with
      | true =>
        simp only [World.follow, hi, hnow, htime, hwait, hc, if_true]
        exact ⟨[.read now, .waited time true], .read hnow (.waited hwait hc .nil), rfl,
          .cancelled hat⟩
      | false =>
        rcases hafter : w.clock s₂ with ⟨after, s₃⟩
        simp only [World.follow, hi, hnow, htime, hwait, hc, hafter, Bool.false_eq_true, if_false]
        by_cases hlate : plan.timeout ≤ after - begun
        · rw [if_pos hlate]
          exact ⟨[.read now, .waited time false, .read after],
            .read hnow (.waited hwait hc (.read hafter .nil)), rfl, .timedOut hat hlate⟩
        · rw [if_neg hlate]
          rcases hquery : w.query s₃ with ⟨e | o, s₄⟩
          · rw [w.observe_of_error hquery]
            exact ⟨[.read now, .waited time false, .asked after (.error e)],
              .read hnow (.waited hwait hc (.asked hafter hquery .nil)), rfl, .raised hat hlate⟩
          · rcases hlater : w.clock s₄ with ⟨later, s₅⟩
            simp only [w.observe_of_ok hquery hlater]
            by_cases ho : (o.state last.attemptsMade started later).isTerminal = true
            · rw [if_pos ho]
              exact ⟨[.read now, .waited time false, .asked after (.ok o), .read later],
                .read hnow (.waited hwait hc (.asked hafter hquery (.read hlater .nil))), rfl,
                .finished hat hlate ho⟩
            · rw [if_neg ho]
              obtain ⟨sights, hshows, hevents, hfollows⟩ :=
                ih (round + 1) (o.state last.attemptsMade started later) s₅
              refine ⟨.read now :: .waited time false :: .asked after (.ok o) :: .read later ::
                  sights,
                .read hnow (.waited hwait hc (.asked hafter hquery (.read hlater hshows))), ?_,
                .pending hat hlate (Bool.eq_false_iff.2 ho) hfollows⟩
              simp only [eventsOf_read, eventsOf_waited, eventsOf_asked, hevents]
              rfl

/-- **A run sees what its plan allows.** -/
theorem World.await_awaits (s : σ) :
    ∃ sights, w.Shows s sights (w.await plan s).world ∧
      eventsOf sights = (w.await plan s).events ∧
      Awaits plan sights (w.await plan s).outcome := by
  rcases hstarted : w.clock s with ⟨started, s₁⟩
  rcases hquery : w.query s₁ with ⟨e | o, s₂⟩
  · simp only [World.await, hstarted, w.observe_of_error hquery]
    exact ⟨[.asked started (.error e)], .asked hstarted hquery .nil, rfl, .raised⟩
  · rcases hnow : w.clock s₂ with ⟨now, s₃⟩
    rcases hbegun : w.clock s₃ with ⟨begun, s₄⟩
    simp only [World.await, hstarted, w.observe_of_ok hquery hnow, hbegun]
    by_cases ho : (o.state 0 started now).isTerminal = true
    · rw [if_pos ho]
      exact ⟨[.asked started (.ok o), .read now], .asked hstarted hquery (.read hnow .nil), rfl,
        .finished ho⟩
    · rw [if_neg ho]
      obtain ⟨sights, hshows, hevents, hfollows⟩ :=
        w.follow_follows plan started begun 0 plan.waits (o.state 0 started now) s₄
      refine ⟨.asked started (.ok o) :: .read now :: .read begun :: sights,
        .asked hstarted hquery (.read hnow (.read hbegun hshows)), ?_,
        .pending (Bool.eq_false_iff.2 ho) hfollows⟩
      simp only [eventsOf_read, eventsOf_asked, hevents]
      rfl

end

end ContractAudit.Job
