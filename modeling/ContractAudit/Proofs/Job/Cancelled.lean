/-
  What a run hands over that ends without a result.

  * `ShowsLast started sights state`: the state is what the last query among the sights showed, with
    the number of queries up to it and the time since the run started;
  * `Follows.lastSeen` and `Awaits.lastSeen`: a run that is out of time, out of waits or cancelled
    has seen such a state, which is pending, and hands it over unless it was cancelled;
  * `awaitBy_hands_over`: hence every run by a schedule does.  A cancelled run hands over no state,
    though its last query has shown one (`cancelled_run_forgets`).
-/
import ContractAudit.Job.Rehearsal
import ContractAudit.Proofs.Job.Safety

namespace ContractAudit.Job

/-! ## The last query -/

section
variable {ε τ : Type}

theorem answersOf_append (sights more : List (Sight ε τ)) :
    answersOf (sights ++ more) = answersOf sights ++ answersOf more :=
  List.filterMap_append

/-- Whether waiting itself has failed: the run is out of time or of waits, or it was cancelled. -/
def Failure.isOfWaiting : Failure ε τ → Bool
  | timedOut _ _ | exhausted _ | cancelled => true
  | query _ | defect _ => false

/-- Whether a run was cancelled. -/
def wasCancelled : Except (Failure ε τ) (State τ) → Bool
  | .error .cancelled => true
  | _ => false

theorem wasCancelled_iff {outcome : Except (Failure ε τ) (State τ)} :
    wasCancelled outcome = true ↔ outcome = .error .cancelled := by
  rcases outcome with (_ | _ | _ | _ | _) | _ <;> simp [wasCancelled]

variable [Sub τ] [LT τ] [DecidableLT τ] [OfNat τ 0]

/-- The state is what the last query among the sights showed: its answer, with the number of queries
up to it and the time from `started` to the reading of the clock after it. -/
def ShowsLast (started : τ) (sights : List (Sight ε τ)) (state : State τ) : Prop :=
  ∃ before now o later after,
    sights = before ++ .asked now (.ok o) :: .read later :: after ∧ answersOf after = [] ∧
    state = o.state (answersOf before).length started later

namespace ShowsLast

variable {started : τ} {sights more : List (Sight ε τ)} {state : State τ}

theorem attemptsMade_eq (h : ShowsLast started sights state) :
    state.attemptsMade = (answersOf sights).length := by
  obtain ⟨before, now, o, later, after, rfl, hafter, rfl⟩ := h
  rw [answersOf_append, answersOf_asked, answersOf_read, hafter, List.length_append]
  rfl

theorem append (h : ShowsLast started sights state) (hmore : answersOf more = []) :
    ShowsLast started (sights ++ more) state := by
  obtain ⟨before, now, o, later, after, rfl, hafter, rfl⟩ := h
  refine ⟨before, now, o, later, after ++ more, ?_, ?_, rfl⟩
  · rw [List.append_assoc]
    rfl
  · rw [answersOf_append, hafter, hmore]
    rfl

theorem next (h : ShowsLast started sights state) (hmore : answersOf more = []) (now : τ)
    (o : Observation) (later : τ) :
    ShowsLast started (sights ++ more ++ [.asked now (.ok o), .read later])
      (o.state state.attemptsMade started later) := by
  refine ⟨sights ++ more, now, o, later, [], rfl, rfl, ?_⟩
  rw [h.attemptsMade_eq, answersOf_append, hmore, List.append_nil]

end ShowsLast

end

/-! ## Runs -/

section
variable {ε τ : Type} [Add τ] [Sub τ] [LT τ] [DecidableLT τ] [LE τ] [OfNat τ 0]
  {plan : Plan τ} {started begun : τ} {round left : Nat} {last : State τ}
  {sights : List (Sight ε τ)} {outcome : Except (Failure ε τ) (State τ)} {failure : Failure ε τ}

/-- The failure hands over the state, unless the run was cancelled; then it hands over none. -/
def Failure.HandsOver (failure : Failure ε τ) (state : State τ) : Prop :=
  (failure ≠ .cancelled → failure.lastState? = some state) ∧
    (failure = .cancelled → failure.lastState? = none)

/-- Where waiting fails, the rest of a run hands over what the last query showed, unless it was
cancelled. -/
theorem Follows.lastSeen (h : Follows plan started begun round left last sights outcome)
    {seen : List (Sight ε τ)} (hlast : ShowsLast started seen last)
    (hpending : last.status = .pending) (hf : outcome = .error failure)
    (hw : failure.isOfWaiting = true) :
    ∃ state, ShowsLast started (seen ++ sights) state ∧ state.status = .pending ∧
      failure.HandsOver state := by
  -- each round adds its query to what is seen
  induction h generalizing seen with
  | exhausted =>
    cases hf
    exact ⟨_, hlast.append rfl, hpending, fun _ => rfl, nofun⟩
  | timedOut =>
    cases hf
    exact ⟨_, hlast.append rfl, hpending, fun _ => rfl, nofun⟩
  | cancelled =>
    cases hf
    exact ⟨_, hlast.append rfl, hpending, fun hn => absurd rfl hn, fun _ => rfl⟩
  | defect | raised =>
    cases hf
    cases hw
  | finished => cases hf
  | @pending _ _ _ now time after o later rest _ _ _ ho _ ih =>
    have hquiet : answersOf ([.read now, .waited time false] : List (Sight ε τ)) = [] := rfl
    have hnext := hlast.next hquiet after o later
    obtain ⟨state, hstate, hrest⟩ := ih hnext (Status.isTerminal_eq_false_iff.1 ho) hf
    refine ⟨state, ?_, hrest⟩
    simpa using hstate

/-- Where waiting fails, a run hands over what its last query showed, unless it was cancelled. -/
theorem Awaits.lastSeen (h : Awaits plan sights outcome) (hf : outcome = .error failure)
    (hw : failure.isOfWaiting = true) :
    ∃ started answer rest state, sights = .asked started answer :: rest ∧
      ShowsLast started sights state ∧ state.status = .pending ∧ failure.HandsOver state := by
  cases h with
  | raised =>
    cases hf
    cases hw
  | finished => cases hf
  | @pending started o now begun rest _ ho hfollows =>
    have hfirst :
        ShowsLast started ([.asked started (.ok o), .read now, .read begun] : List (Sight ε τ))
          (o.state 0 started now) :=
      ⟨[], started, o, now, [.read begun], rfl, rfl, rfl⟩
    obtain ⟨state, hstate, hrest⟩ :=
      hfollows.lastSeen hfirst (Status.isTerminal_eq_false_iff.1 ho) hf hw
    exact ⟨started, .ok o, _, state, rfl, hstate, hrest⟩

end

/-- **A run whose waiting fails hands over the state of its last query, unless it was cancelled.**
Whatever answers, clocks and waits it meets, its last query has shown a pending state, by then as
many queries were made as the state says, and the state is handed over when the run is out of time
or of waits. When it was cancelled, none is. -/
theorem awaitBy_hands_over {σ ε : Type} (w : World σ ε Time) (schedule : Schedule) (s : σ)
    {failure : Failure ε Time} (hf : (w.awaitBy schedule s).outcome = .error failure)
    (hw : failure.isOfWaiting = true) :
    ∃ sights started answer rest state,
      w.Shows s sights (w.awaitBy schedule s).world ∧
      eventsOf sights = (w.awaitBy schedule s).events ∧
      sights = .asked started answer :: rest ∧
      ShowsLast started sights state ∧
      state.attemptsMade = (answersOf sights).length ∧ state.status = .pending ∧
      failure.HandsOver state := by
  cases hplan : schedule.plan with
  | error d =>
    rw [World.awaitBy, hplan] at hf
    cases hf
    cases hw
  | ok plan =>
    have hrun : w.awaitBy schedule s = w.await plan s := by rw [World.awaitBy, hplan]
    rw [hrun] at hf ⊢
    obtain ⟨sights, hshows, hevents, hawaits⟩ := w.await_awaits plan s
    obtain ⟨started, answer, rest, state, hsights, hstate, hpending, hgiven⟩ :=
      hawaits.lastSeen hf hw
    exact ⟨sights, started, answer, rest, state, hshows, hevents, hsights, hstate,
      hstate.attemptsMade_eq, hpending, hgiven⟩

/-- A job that stays pending and takes two seconds to answer, in a run that is cancelled during its
`n`-th wait. -/
def stoppedScript (n : Int) : Script Unit :=
  { first := { outcome := .ok { vendorStatus := some "In Progress" }, cost := 2 }
    cancelAfter := some n }

/-- A first wait of twenty seconds, and three minutes in all. -/
def shortSchedule : Schedule :=
  { initialDelay := .real 20, timeout := .real 180 }

/-- A run that is cancelled during its second wait. -/
theorem awaitBy_hands_over_cancelled :
    let p := stoppedScript 2
    let run := p.world.awaitBy shortSchedule p.start
    run.outcome = .error .cancelled ∧ (Failure.cancelled : Failure Unit Time).isOfWaiting = true ∧
    ∃ sights started answer rest state,
      p.world.Shows p.start sights run.world ∧ eventsOf sights = run.events ∧
      sights = .asked started answer :: rest ∧ ShowsLast started sights state ∧
      state.attemptsMade = (answersOf sights).length ∧ state.status = .pending ∧
      (Failure.cancelled : Failure Unit Time).HandsOver state := by
  intro p run
  have hf : run.outcome = .error .cancelled := wasCancelled_iff.1 (by decide +kernel)
  exact ⟨hf, rfl, awaitBy_hands_over p.world shortSchedule p.start hf rfl⟩

/-- **A cancelled run forgets what it has seen.** One query is made, which shows that the job is
pending; the run is cancelled during the wait after it and hands over no state. -/
theorem cancelled_run_forgets :
    let p := stoppedScript 1
    let run := p.world.awaitBy shortSchedule p.start
    run.outcome = .error .cancelled ∧ run.events.map Event.isQuery = [true, false] ∧
    (p.world.query p.start).1 = .ok { vendorStatus := some "In Progress" } ∧
    heldBy run.outcome = none := by
  intro p run
  have hf : run.outcome = .error .cancelled := wasCancelled_iff.1 (by decide +kernel)
  refine ⟨hf, by decide +kernel, rfl, ?_⟩
  rw [hf]
  rfl

end ContractAudit.Job
