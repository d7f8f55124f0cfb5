/-
  Safety of waiting.

  * `Safe n sights outcome` says what a run with at most `n` waits may do, by what it sees: how many
    queries it makes and when, and which outcome it has after which answers and waits.
  * Each lemma on `Follows` is one such property of the rest of a run, by induction on it; the
    states that it hands over are those of all answers so far (`Follows.isOf`).
  * `Awaits.safe`: every run by a plan is safe.
  * `awaitBy_safe`: hence every run by a schedule is, whatever its world does.
-/
import Mathlib.Data.List.Chain
import ContractAudit.Job.Schedule
import ContractAudit.Proofs.Job.Trace

namespace ContractAudit.Job

/-! ## Safe runs -/

section
variable {ε τ : Type}

/-- Whether an event is a query. -/
def Event.isQuery : Event τ → Bool
  | query _ => true
  | wait _ => false

/-- Queries and waits take turns, and a query is first. -/
structure TakeTurns (events : List (Event τ)) : Prop where
  first : ∃ now rest, events = .query now :: rest
  alternate : events.IsChain fun a b => a.isQuery ≠ b.isQuery

/-- The state is that of the last of the answers. -/
structure State.IsOf (state : State τ) (answers : List (Except ε Observation)) : Prop where
  attemptsMade : state.attemptsMade = answers.length
  observed : ∃ o, answers.getLast? = some (.ok o) ∧ state.status = o.status ∧
    state.vendorStatus = o.vendorStatus

/-- The state that an outcome holds. -/
def heldBy : Except (Failure ε τ) (State τ) → Option (State τ)
  | .ok state => some state
  | .error failure => failure.lastState?

/-- Whether a run has to stop at the sight: the run is cancelled, or a query failed. -/
def Sight.isStop : Sight ε τ → Bool
  | waited _ isCancelled => isCancelled
  | asked _ (.error _) => true
  | _ => false

/-- What a run with at most `n` waits does by what it sees. -/
structure Safe [LT τ] [OfNat τ 0] (n : Nat) (sights : List (Sight ε τ))
    (outcome : Except (Failure ε τ) (State τ)) : Prop where
  queries_pos : 1 ≤ (answersOf sights).length
  queries_le : (answersOf sights).length ≤ n + 1
  turns : TakeTurns (eventsOf sights)
  /-- Before its last query the job is pending. -/
  earlier : ∀ a ∈ (answersOf sights).dropLast, ∃ o, a = .ok o ∧ o.status = .pending
  returns_iff : (∃ state, outcome = .ok state) ↔
    ∃ o, (answersOf sights).getLast? = some (.ok o) ∧ o.status.isTerminal = true
  /-- A run that is out of time or of waits holds a state, as one does that returns. -/
  held : ∀ state, heldBy outcome = some state →
    state.IsOf (answersOf sights) ∧ ¬ state.elapsedTime < 0
  failed : ∀ failure state, outcome = .error failure → failure.lastState? = some state →
    state.status = .pending
  exhausted : ∀ state, outcome = .error (.exhausted state) → (answersOf sights).length = n + 1
  cancelled : outcome = .error .cancelled ↔ ∃ time, .waited time true ∈ sights
  raised : ∀ e, outcome = .error (.query e) ↔ ∃ now, .asked now (.error e) ∈ sights
  /-- Nothing follows a wait after which the run is cancelled, or a query that fails. -/
  stops : ∀ x ∈ sights.dropLast, x.isStop = false

end

/-! ## The rest of a run -/

theorem Status.isTerminal_eq_false_iff {s : Status} : s.isTerminal = false ↔ s = .pending := by
  cases s <;> simp [Status.isTerminal]

theorem forall_mem_dropLast_cons {α : Type} {p : α → Prop} {b : α} {l : List α} (hb : p b)
    (hl : ∀ a ∈ l.dropLast, p a) : ∀ a ∈ (b :: l).dropLast, p a := by
  cases l with
  | nil => exact nofun
  | cons c l =>
    rw [List.dropLast_cons_cons, List.forall_mem_cons]
    exact ⟨hb, hl⟩

theorem forall_mem_dropLast_of_cons {α : Type} {p : α → Prop} {b : α} {l : List α}
    (h : ∀ a ∈ (b :: l).dropLast, p a) : ∀ a ∈ l.dropLast, p a := by
  cases l with
  | nil => exact nofun
  | cons => exact fun a ha => h a (List.mem_cons_of_mem _ ha)

theorem isChain_query_cons {τ : Type} {now : τ} {events : List (Event τ)}
    (h : events.IsChain (fun a b => a.isQuery ≠ b.isQuery) ∧
      ∀ e ∈ events.head?, e.isQuery = false) :
    (.query now :: events).IsChain fun a b => a.isQuery ≠ b.isQuery := by
  rw [List.isChain_cons]
  refine ⟨fun e he => ?_, h.1⟩
  rw [h.2 e he]
  exact nofun

section
variable {ε τ : Type} [Add τ] [Sub τ] [LT τ] [DecidableLT τ] [LE τ] [OfNat τ 0]
  {plan : Plan τ} {started begun : τ} {round left : Nat} {last : State τ}
  {sights : List (Sight ε τ)} {outcome : Except (Failure ε τ) (State τ)}

omit [Add τ] [LE τ] in
theorem State.IsOf.next {seen : List (Except ε Observation)} (h : last.IsOf seen)
    {o : Observation} {now : τ} :
    (o.state last.attemptsMade started now).IsOf (seen ++ [.ok o]) := by
  refine ⟨?_, o, by simp, rfl, rfl⟩
  rw [List.length_append, ← h.attemptsMade]
  rfl

namespace Follows

theorem turns (h : Follows plan started begun round left last sights outcome) :
    (eventsOf sights).IsChain (fun a b => a.isQuery ≠ b.isQuery) ∧
      ∀ e ∈ (eventsOf sights).head?, e.isQuery = false := by
  induction h with
  | exhausted | defect | cancelled | timedOut | raised | finished => simp [Event.isQuery]
  | pending _ _ _ _ ih =>
    refine ⟨?_, by simp [Event.isQuery]⟩
    simp only [eventsOf_read, eventsOf_waited, eventsOf_asked]
    exact .cons_cons (by simp [Event.isQuery]) (isChain_query_cons ih)

theorem length_le (h : Follows plan started begun round left last sights outcome) :
    (answersOf sights).length ≤ left := by
  induction h with
  | exhausted | defect | cancelled | timedOut | raised | finished => simp
  | pending _ _ _ _ ih => simpa using ih

theorem earlier (h : Follows plan started begun round left last sights outcome) :
    ∀ a ∈ (answersOf sights).dropLast, ∃ o, a = .ok o ∧ o.status = .pending := by
  induction h with
  | exhausted | defect | cancelled | timedOut | raised | finished => simp
  | pending _ _ ho _ ih =>
    simp only [answersOf_read, answersOf_waited, answersOf_asked]
    exact forall_mem_dropLast_cons ⟨_, rfl, Status.isTerminal_eq_false_iff.1 ho⟩ ih

/-- Nothing follows a cancelled wait or a query that failed. -/
theorem stops (h : Follows plan started begun round left last sights outcome) :
    ∀ x ∈ sights.dropLast, x.isStop = false := by
  induction h with
  | exhausted | defect | cancelled | timedOut | raised | finished => simp [Sight.isStop]
  | pending _ _ _ _ ih =>
    exact forall_mem_dropLast_cons rfl <| forall_mem_dropLast_cons rfl <|
      forall_mem_dropLast_cons rfl <| forall_mem_dropLast_cons rfl ih

theorem cancelled_iff (h : Follows plan started begun round left last sights outcome) :
    outcome = .error .cancelled ↔ ∃ time, .waited time true ∈ sights := by
  induction h with
  | exhausted | defect | cancelled | timedOut | raised | finished => simp
  | pending _ _ _ _ ih => simpa using ih

theorem raised_iff (h : Follows plan started begun round left last sights outcome) (e : ε) :
    outcome = .error (.query e) ↔ ∃ now, .asked now (.error e) ∈ sights := by
  induction h with
  | exhausted | defect | cancelled | timedOut | raised | finished => simp [eq_comm]
  | pending _ _ _ _ ih => simpa using ih

theorem returns_iff (h : Follows plan started begun round left last sights outcome) :
    (∃ state, outcome = .ok state) ↔
      ∃ o, .ok o ∈ answersOf sights ∧ o.status.isTerminal = true := by
  induction h with
  | exhausted | defect | cancelled | timedOut | raised => simp
  | finished _ _ ho => simp [ho]
  | pending _ _ ho _ ih => simp [ih, ho]

theorem length_of_exhausted (h : Follows plan started begun round left last sights outcome)
    {state : State τ} (hs : outcome = .error (.exhausted state)) :
    (answersOf sights).length = left := by
  induction h with
  | exhausted => rfl
  | defect | cancelled | timedOut | raised | finished => cases hs
  | pending _ _ _ _ ih => simpa using ih hs

/-- The state that an outcome holds is that of the last of all answers. -/
theorem isOf (h : Follows plan started begun round left last sights outcome)
    {seen : List (Except ε Observation)} (hlast : last.IsOf seen) {state : State τ}
    (hs : heldBy outcome = some state) : state.IsOf (seen ++ answersOf sights) := by
  -- the answers seen before grow with each round
  induction h generalizing seen with
  | exhausted | timedOut =>
    cases hs
    simpa using hlast
  | defect | cancelled | raised => cases hs
  | finished =>
    cases hs
    simpa using hlast.next
  | pending _ _ _ _ ih => simpa using ih hlast.next hs

theorem pending_of_error (h : Follows plan started begun round left last sights outcome)
    (hlast : last.status = .pending) {failure : Failure ε τ} (hf : outcome = .error failure)
    {state : State τ} (hs : failure.lastState? = some state) : state.status = .pending := by
  induction h with
  | exhausted | timedOut =>
    cases hf
    cases hs
    exact hlast
  | defect | cancelled | raised =>
    cases hf
    cases hs
  | finished => cases hf
  | pending _ _ ho _ ih => exact ih (Status.isTerminal_eq_false_iff.1 ho) hf

theorem elapsedTime_eq (h : Follows plan started begun round left last sights outcome)
    (hlast : ∃ t, last.elapsedTime = nonNegative t) {state : State τ}
    (hs : heldBy outcome = some state) : ∃ t, state.elapsedTime = nonNegative t := by
  induction h with
  | exhausted | timedOut =>
    cases hs
    exact hlast
  | defect | cancelled | raised => cases hs
  | finished =>
    cases hs
    exact ⟨_, rfl⟩
  | pending _ _ _ _ ih => exact ih ⟨_, rfl⟩ hs

theorem defect_round (h : Follows plan started begun round left last sights outcome)
    {d : Defect} (hd : outcome = .error (.defect d)) :
    ∃ r < round + left, plan.interval r = .error d := by
  induction h with
  | exhausted | cancelled | timedOut | raised | finished => cases hd
  | @defect round left _ d hi => cases hd; exact ⟨round, by omega, hi⟩
  | pending _ _ _ _ ih =>
    obtain ⟨r, hr, hi⟩ := ih hd
    exact ⟨r, by omega, hi⟩

end Follows

/-! ## Whole runs -/

/-- If the job is pending before its last query, only that one can show a terminal status. -/
theorem exists_mem_iff_getLast? {ε : Type} {answers : List (Except ε Observation)}
    (h : ∀ a ∈ answers.dropLast, ∃ o, a = .ok o ∧ o.status = .pending) :
    (∃ o, .ok o ∈ answers ∧ o.status.isTerminal = true) ↔
      ∃ o, answers.getLast? = some (.ok o) ∧ o.status.isTerminal = true := by
  constructor
  · rintro ⟨o, ho, hterminal⟩
    have hne : answers ≠ [] := List.ne_nil_of_mem ho
    rw [← List.dropLast_concat_getLast hne, List.mem_append, List.mem_singleton] at ho
    rcases ho with ho | ho
    · obtain ⟨o', he, hpending⟩ := h _ ho
      cases he
      rw [hpending] at hterminal
      cases hterminal
    · exact ⟨o, by rw [List.getLast?_eq_some_getLast hne, ho], hterminal⟩
  · rintro ⟨o, ho, hterminal⟩
    exact ⟨o, List.mem_of_getLast? ho, hterminal⟩

omit [Add τ] [Sub τ] [LE τ] in
theorem not_nonNegative_lt_zero (hzero : ¬ (0 : τ) < 0) (t : τ) : ¬ nonNegative t < 0 := by
  rw [nonNegative]
  split
  · exact hzero
  · assumption

/-- **Every run by a plan is safe.** -/
theorem Awaits.safe (hzero : ¬ (0 : τ) < 0) (h : Awaits plan sights outcome) :
    Safe plan.waits sights outcome := by
  have hnever := not_nonNegative_lt_zero hzero
  cases h with
  | @raised started e =>
    exact {
      queries_pos := by simp
      queries_le := by simp
      turns := ⟨⟨started, [], rfl⟩, .singleton _⟩
      earlier := by simp
      returns_iff := by simp
      held := nofun
      failed := by rintro _ _ ⟨⟩ ⟨⟩
      exhausted := nofun
      cancelled := by simp
      raised := by simp [eq_comm]
      stops := by simp }
  | @finished started o now ho =>
    exact {
      queries_pos := by simp
      queries_le := by simp
      turns := ⟨⟨started, [], rfl⟩, .singleton _⟩
      earlier := by simp
      returns_iff := by simp [ho]
      held := by
        rintro state ⟨⟩
        exact ⟨⟨rfl, o, rfl, rfl, rfl⟩, hnever _⟩
      failed := nofun
      exhausted := nofun
      cancelled := by simp
      raised := by simp
      stops := by simp [Sight.isStop] }
  | @pending started o now begun rest _ ho hfollows =>
    have hfirst : (o.state 0 started now).IsOf [(.ok o : Except ε Observation)] :=
      ⟨rfl, o, rfl, rfl, rfl⟩
    have hpending : o.status = .pending := Status.isTerminal_eq_false_iff.1 ho
    have hearlier : ∀ a ∈ (answersOf (.asked started (.ok o) :: .read now :: .read begun ::
        rest)).dropLast, ∃ o, a = .ok o ∧ o.status = .pending := by
      simp only [answersOf_asked, answersOf_read]
      exact forall_mem_dropLast_cons ⟨o, rfl, hpending⟩ hfollows.earlier
    exact {
      queries_pos := by simp
      queries_le := by simpa using hfollows.length_le
      turns := ⟨⟨started, eventsOf rest, rfl⟩, isChain_query_cons hfollows.turns⟩
      earlier := hearlier
      returns_iff := by
        rw [← exists_mem_iff_getLast? hearlier, hfollows.returns_iff]
        simp [ho]
      held := by
        intro state hs
        obtain ⟨t, ht⟩ := hfollows.elapsedTime_eq ⟨_, rfl⟩ hs
        exact ⟨by simpa using hfollows.isOf hfirst hs, ht ▸ hnever t⟩
      failed := fun _ _ hf hs => hfollows.pending_of_error hpending hf hs
      exhausted := fun _ hs => by simp [hfollows.length_of_exhausted hs]
      cancelled := by simp [hfollows.cancelled_iff]
      raised := fun e => by simp [hfollows.raised_iff]
      stops := forall_mem_dropLast_cons rfl <| forall_mem_dropLast_cons rfl <|
        forall_mem_dropLast_cons rfl hfollows.stops }

theorem Awaits.defect_round (h : Awaits plan sights outcome) {d : Defect}
    (hd : outcome = .error (.defect d)) : ∃ r < plan.waits, plan.interval r = .error d := by
  cases h with
  | raised | finished => cases hd
  | pending _ hfollows => simpa using hfollows.defect_round hd

/-- A plan that fails before its first wait allows one query. -/
theorem Awaits.failing {timeout : τ} {d : Defect}
    (h : Awaits (.failing timeout d) sights outcome) :
    (answersOf sights).length = 1 ∧ ∀ state, outcome ≠ .error (.exhausted state) := by
  have hnone : ∀ begun round now time,
      (Plan.failing timeout d).waitAt begun round now ≠ .ok time := fun _ _ _ _ => nofun
  cases h with
  | raised | finished => exact ⟨rfl, nofun⟩
  | @pending _ _ _ begun _ _ _ hfollows =>
    rw [Plan.failing] at hfollows
    cases hfollows with
    | defect => exact ⟨rfl, nofun⟩
    | cancelled hat | timedOut hat | raised hat | finished hat | pending hat =>
      exact absurd hat (hnone _ _ _ _)

end

/-! ## Schedules -/

namespace Time

theorem not_zero_lt_zero : ¬ (0 : Time) < 0 := by decide

theorem zero_le_iff {t : Time} : 0 ≤ t ↔ t.IsNumber ∧ ¬ t < 0 := by
  cases t with
  | whole n =>
    show decide (0 ≤ n) = true ↔ (Ratio.ofInt n).isNumber = true ∧ ¬ decide (n < 0) = true
    simp [Ratio.isNumber, Ratio.ofInt]
  | real x =>
    show (Ratio.ofInt 0).atMost (real x).ratio = true ↔
      (real x).ratio.isNumber = true ∧ ¬ (real x).ratio.less (Ratio.ofInt 0) = true
    simp [Ratio.atMost, Ratio.isNumber, Ratio.ofInt]

end Time

/-- The plan of a schedule without negative numbers. -/
theorem Schedule.plan_eq {schedule : Schedule} (hd : 0 ≤ schedule.initialDelay)
    (ht : 0 ≤ schedule.timeout) (hn : 0 ≤ schedule.maxAttempts) :
    schedule.plan = match schedule.timeout.float with
      | .ok _ => .ok { timeout := schedule.timeout, waits := schedule.maxAttempts.toNat,
                       interval := schedule.interval }
      | .error d => .ok (.failing schedule.timeout d) := by
  have htimes : ¬ (schedule.initialDelay < 0 ∨ schedule.timeout < 0) := by
    rintro (h | h)
    · exact (Time.zero_le_iff.1 hd).2 h
    · exact (Time.zero_le_iff.1 ht).2 h
  have hattempts : ¬ schedule.maxAttempts < 0 := by omega
  cases hf : schedule.timeout.float with
  | ok x =>
    have hm : Reckoning.measured schedule.timeout = .ok (.real x) := by
      rw [Time.measured_eq, hf]
      rfl
    simp only [BackOff.plan, if_neg htimes, if_neg hattempts, hm]
  | error d =>
    have hm : Reckoning.measured schedule.timeout = .error d := by
      rw [Time.measured_eq, hf]
      rfl
    simp only [BackOff.plan, if_neg htimes, if_neg hattempts, hm]

theorem Schedule.exists_plan {schedule : Schedule} (hd : 0 ≤ schedule.initialDelay)
    (ht : 0 ≤ schedule.timeout) (hn : 0 ≤ schedule.maxAttempts) :
    ∃ plan, schedule.plan = .ok plan := by
  rw [Schedule.plan_eq hd ht hn]
  cases schedule.timeout.float <;> exact ⟨_, rfl⟩

/-- A run by a schedule makes one query more than it has attempts at most. -/
theorem Schedule.length_answersOf_le {schedule : Schedule} {plan : Plan Time} {ε : Type}
    {sights : List (Sight ε Time)} {outcome : Except (Failure ε Time) (State Time)}
    (hplan : schedule.plan = .ok plan) (h : Awaits plan sights outcome) :
    (answersOf sights).length ≤ (schedule.maxAttempts + 1).toNat := by
  have hle := (h.safe Time.not_zero_lt_zero).queries_le
  rw [BackOff.plan] at hplan
  split at hplan
  · cases hplan
  · split at hplan
    · cases hplan
    · split at hplan <;> cases hplan
      · simp only at hle
        omega
      · have hone := h.failing.1
        omega

section
variable {σ ε : Type} (w : World σ ε Time) {schedule : Schedule} (s : σ)

/-- A run by a schedule without negative numbers is one by a plan, and so it is safe. -/
theorem World.exists_safe (hd : 0 ≤ schedule.initialDelay) (ht : 0 ≤ schedule.timeout)
    (hn : 0 ≤ schedule.maxAttempts) :
    ∃ sights, w.Shows s sights (w.awaitBy schedule s).world ∧
      eventsOf sights = (w.awaitBy schedule s).events ∧
      Safe schedule.maxAttempts.toNat sights (w.awaitBy schedule s).outcome ∧
      ∀ d, (w.awaitBy schedule s).outcome = .error (.defect d) →
        schedule.timeout.float = .error d ∨
          ∃ r < schedule.maxAttempts.toNat, schedule.interval r = .error d := by
  rw [World.awaitBy, Schedule.plan_eq hd ht hn]
  cases hf : schedule.timeout.float with
  | ok x =>
    obtain ⟨sights, hshows, hevents, hawaits⟩ := w.await_awaits
      { timeout := schedule.timeout, waits := schedule.maxAttempts.toNat,
        interval := schedule.interval } s
    exact ⟨sights, hshows, hevents, hawaits.safe Time.not_zero_lt_zero,
      fun d h => Or.inr (hawaits.defect_round h)⟩
  | error d =>
    obtain ⟨sights, hshows, hevents, hawaits⟩ := w.await_awaits (.failing schedule.timeout d) s
    obtain ⟨hone, hnever⟩ := hawaits.failing
    -- the plan has one wait that is never made, whatever the number of attempts is
    have hsafe := hawaits.safe Time.not_zero_lt_zero
    refine ⟨sights, hshows, hevents, ?_, fun d' h => Or.inl ?_⟩
    · exact { hsafe with
        queries_le := by omega
        exhausted := fun state h => absurd h (hnever state) }
    · obtain ⟨r, -, hr⟩ := hawaits.defect_round h
      exact congrArg Except.error (Except.error.inj hr)

/-- **Every run by a schedule is safe**, whatever answers, clocks and waits it meets; it only fails
otherwise where the schedule gives no time. The time that a run took is none at least, unless the
clock is such that it is no number at all. -/
theorem awaitBy_safe (hd : 0 ≤ schedule.initialDelay) (ht : 0 ≤ schedule.timeout)
    (hn : 0 ≤ schedule.maxAttempts) :
    ∃ sights, w.Shows s sights (w.awaitBy schedule s).world ∧
      eventsOf sights = (w.awaitBy schedule s).events ∧
      Safe schedule.maxAttempts.toNat sights (w.awaitBy schedule s).outcome ∧
      (∀ state, heldBy (w.awaitBy schedule s).outcome = some state →
        state.elapsedTime.IsNumber → 0 ≤ state.elapsedTime) ∧
      ∀ d, (w.awaitBy schedule s).outcome = .error (.defect d) →
        schedule.timeout.float = .error d ∨
          ∃ r < schedule.maxAttempts.toNat, schedule.interval r = .error d := by
  obtain ⟨sights, hshows, hevents, hsafe, hdefect⟩ := w.exists_safe s hd ht hn
  refine ⟨sights, hshows, hevents, hsafe, fun state hs hnumber => ?_, hdefect⟩
  exact Time.zero_le_iff.2 ⟨hnumber, (hsafe.held state hs).2⟩

end

/-- A job that is pending at first and finished at the second query, on a clock that goes back at
every reading. Its state tells of two queries, which took no time. -/
theorem awaitBy_safe_backwards :
    let w : World (Nat × Int) Unit Time :=
      { query := fun s =>
          (.ok { status := if s.1 = 0 then .pending else .finished }, (s.1 + 1, s.2))
        clock := fun s => (.whole s.2, (s.1, s.2 - 1))
        pause := fun _ s => s
        isCancelled := fun _ => false }
    let schedule : Schedule := { initialDelay := .whole 5, timeout := .whole 60, maxAttempts := 1 }
    let state : State Time :=
      { status := .finished, attemptsMade := 2, elapsedTime := 0, vendorStatus := none }
    0 ≤ schedule.initialDelay ∧ 0 ≤ schedule.timeout ∧ 0 ≤ schedule.maxAttempts ∧
    (w.awaitBy schedule (0, 100)).outcome = .ok state ∧ state.elapsedTime.IsNumber ∧
    ∃ sights, w.Shows (0, 100) sights (w.awaitBy schedule (0, 100)).world ∧
      eventsOf sights = (w.awaitBy schedule (0, 100)).events ∧
      Safe 1 sights (.ok state) ∧ 0 ≤ state.elapsedTime := by
  intro w schedule state
  have hd : 0 ≤ schedule.initialDelay := by decide
  have ht : 0 ≤ schedule.timeout := by decide
  have hn : 0 ≤ schedule.maxAttempts := by decide
  have houtcome : (w.awaitBy schedule (0, 100)).outcome = .ok state := rfl
  have hnumber : state.elapsedTime.IsNumber := rfl
  obtain ⟨sights, hshows, hevents, hsafe, hnever, -⟩ := awaitBy_safe w (0, 100) hd ht hn
  rw [houtcome] at hsafe hnever
  exact ⟨hd, ht, hn, houtcome, hnumber, sights, hshows, hevents, hsafe, hnever state rfl hnumber⟩

end ContractAudit.Job
