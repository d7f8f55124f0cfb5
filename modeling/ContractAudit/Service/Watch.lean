/-
  Waiting for a job of the service.

  * `Client.watch` queries the status of a job until it is terminal, by a schedule.  The clock
    starts at zero and moves with the waits only.
-/
import ContractAudit.Job.Schedule
import ContractAudit.Service.Client

namespace ContractAudit.Service

/-- A session and the time since its watch began. -/
structure Watch where
  session : Session
  now : Float := 0

/-- The world in which the client watches a job. -/
def Client.world (c : Client) (job : Json) : Job.World Watch (Fault Error) Job.Time where
  query w :=
    let (answer, session) := (c.queryStatus job).runIn w.session
    (answer, { w with session })
  clock w := (.real w.now, w)
  pause time w := { w with now := w.now + time.toFloat }
  isCancelled _ := false

/-- Waits for a job to end. -/
def Client.watch (c : Client) (job : Json) (schedule : Job.Schedule) (s : Session) :
    Job.Run Watch (Fault Error) Job.Time :=
  (c.world job).awaitBy schedule { session := s }

/-- The waits of a run that took time. -/
def waits (events : List (Job.Event Job.Time)) : List Float :=
  events.filterMap fun
    | .wait t => if 0 < t then some t.toFloat else none
    | .query _ => none

end ContractAudit.Service
