/-
  Waiting for a job to end.

  The service does not say when a job is done, so its status is queried: once at the start, and
  then after each wait of a `Plan`, until the status is terminal, the time is up or the waits of
  the plan are used up.

  * A run sees a `World`, which answers queries and tells the time, and which may do with its state
    what it likes in between: clocks may jump and waits may last as long as they want.
  * `await` is one run, with its outcome and the queries and waits it made, in order.  Times are of
    any type with an order, sums and differences, so that a run can be studied in exact arithmetic.
  * Every wait is cut to the time left, and none is negative (`clamped`).
-/
import ContractAudit.Defect
import ContractAudit.Job.State

namespace ContractAudit.Job

/-- What surrounds a run: `σ` is its state and `ε` the failure of a query. -/
structure World (σ ε τ : Type) where
  query : σ → Except ε Observation × σ
  clock : σ → τ × σ
  /-- Lets some time pass, which is positive. -/
  pause : τ → σ → σ
  isCancelled : σ → Bool

/-- How long to wait: `interval r` before the query after the `r`-th wait, at most `waits` times and
`timeout` in all. -/
structure Plan (τ : Type) where
  timeout : τ
  waits : Nat
  interval : Nat → Except Defect τ

/-- A plan that fails before its first wait. -/
def Plan.failing {τ : Type} (timeout : τ) (d : Defect) : Plan τ :=
  { timeout, waits := 1, interval := fun _ => .error d }

/-- What a run does. -/
inductive Event (τ : Type) where
  /-- A query, at a reading of the clock. -/
  | query (time : τ)
  | wait (time : τ)

/-- Why a run ended without a terminal status. -/
inductive Failure (ε τ : Type) where
  | timedOut (timeout : τ) (last : State τ)
  | exhausted (last : State τ)
  | cancelled
  | query (e : ε)
  | defect (d : Defect)

/-- The state that a failure hands over. -/
def Failure.lastState? {ε τ : Type} : Failure ε τ → Option (State τ)
  | timedOut _ s => some s
  | exhausted s => some s
  | _ => none

/-- A run: how it ended, what it did, and what the world is like afterwards. -/
structure Run (σ ε τ : Type) where
  outcome : Except (Failure ε τ) (State τ)
  events : List (Event τ)
  world : σ

/-- The run after some events. -/
def Run.after {σ ε τ : Type} (events : List (Event τ)) (r : Run σ ε τ) : Run σ ε τ :=
  { r with events := events ++ r.events }

section
variable {σ ε τ : Type} [Add τ] [Sub τ] [LT τ] [DecidableLT τ] [LE τ] [DecidableLE τ] [OfNat τ 0]

/-- A time, or nothing if it is negative. -/
def nonNegative (t : τ) : τ :=
  if t < 0 then 0 else t

/-- The interval, cut to the time left. -/
def clamped (interval left : τ) : τ :=
  nonNegative (if left < interval then left else interval)

/-- The state that a query shows after `made` earlier ones. -/
def World.observe (w : World σ ε τ) (started : τ) (made : Nat) (s : σ) :
    Except ε (State τ) × σ :=
  match w.query s with
  | (.error e, s) => (.error e, s)
  | (.ok o, s) =>
    let (now, s) := w.clock s
    (.ok { status := o.status, attemptsMade := made + 1, elapsedTime := nonNegative (now - started),
           vendorStatus := o.vendorStatus }, s)

/-- The state of the world after a wait. -/
def World.wait (w : World σ ε τ) (time : τ) (s : σ) : σ :=
  if 0 < time then w.pause time s else s

/-- The rest of a run whose last query showed `last`. `started` is when the run began and `begun`
when its first query was over; `round` counts the waits made and `left` those to come. -/
def World.follow (w : World σ ε τ) (plan : Plan τ) (started begun : τ) (round : Nat) :
    (left : Nat) → (last : State τ) → σ → Run σ ε τ
  | 0, last, s => ⟨.error (.exhausted last), [], s⟩
  | left + 1, last, s =>
    match plan.interval round with
    | .error d => ⟨.error (.defect d), [], s⟩
    | .ok interval =>
      let (now, s) := w.clock s
      let time := clamped interval (begun + plan.timeout - now)
      let s := w.wait time s
      if w.isCancelled s then ⟨.error .cancelled, [.wait time], s⟩
      else
        let (now, s) := w.clock s
        if plan.timeout ≤ now - begun then
          ⟨.error (.timedOut plan.timeout last), [.wait time], s⟩
        else
          match w.observe started last.attemptsMade s with
          | (.error e, s) => ⟨.error (.query e), [.wait time, .query now], s⟩
          | (.ok state, s) =>
            if state.isTerminal then ⟨.ok state, [.wait time, .query now], s⟩
            else (w.follow plan started begun (round + 1) left state s).after
              [.wait time, .query now]

/-- Waits for a job to end. -/
def World.await (w : World σ ε τ) (plan : Plan τ) (s : σ) : Run σ ε τ :=
  let (started, s) := w.clock s
  match w.observe started 0 s with
  | (.error e, s) => ⟨.error (.query e), [.query started], s⟩
  | (.ok state, s) =>
    if state.isTerminal then ⟨.ok state, [.query started], s⟩
    else
      let (begun, s) := w.clock s
      (w.follow plan started begun 0 plan.waits state s).after [.query started]

end

end ContractAudit.Job
