/-
  Calls of a client that has access to the service.

  * A client has access in a session (`Client.HasAccess`) if there is a token, or an account to get
    one with.  No call takes that away (`HasAccess.runAll`).
  * `Call.failure?_of_hasAccess`: with access, no call but a login fails for want of credentials,
    whatever the replies are.
-/
import ContractAudit.Proofs.Service.Defects

namespace ContractAudit.Service

/-- There is a token in use, or the client has an account to log in with. -/
def Client.HasAccess (c : Client) (s : Session) : Prop :=
  s.token ≠ none ∨ c.hasAccount = true

/-- The failure is another one than that there are no credentials. -/
def HasCredentials (e : Fault Error) : Prop :=
  e ≠ .error .noCredentials

theorem hasCredentials_defect (d : Defect) : HasCredentials (.defect d) :=
  nofun

theorem hasCredentials_error {e : Error} (h : e ≠ .noCredentials) : HasCredentials (.error e) :=
  fun heq => h (Fault.error.inj heq)

section
variable {c : Client} {s : Session} {α β : Type}

/-! ## Access is kept -/

theorem Client.HasAccess.run (h : c.HasAccess s) (call : Call c) : c.HasAccess (call.run s) := by
  refine h.imp_left fun htoken => ?_
  obtain ⟨turns, hcourse⟩ := call.exists_course s
  exact hcourse.talks.token_ne_none hcourse.keeps (.inl htoken)

/-- **No sequence of calls takes the access away.** -/
theorem Client.HasAccess.runAll (h : c.HasAccess s) (calls : List (Call c)) :
    c.HasAccess (runAll calls s) := by
  induction calls generalizing s with
  | nil => exact h
  | cons call calls ih => exact ih (h.run call)

/-! ## Failures of requests -/

theorem Request.result_failsBy (r : Request) (reply : Reply) :
    FailsBy (r.result reply) HasCredentials := by
  cases reply with
  | lost reason => exact .error (hasCredentials_error (by simp))
  | broken d => exact .error (hasCredentials_defect d)
  | answer status body =>
    rw [result]
    split
    · exact .error (hasCredentials_error (by simp))
    · split
      · exact .ok
      · exact .error (hasCredentials_error (by simp))
      · exact .error (hasCredentials_defect _)

theorem tokenIn_failsBy (answer : Json) : FailsBy (Client.tokenIn answer) HasCredentials := by
  rw [Client.tokenIn]
  split
  · exact .error (hasCredentials_defect _)
  · split
    · exact .ok
    · exact .error (hasCredentials_error (by simp))

theorem lifted_failsBy (x : Except Defect α) :
    FailsBy (x.mapError Fault.defect : Except (Fault Error) α) HasCredentials := by
  cases x with
  | ok a => exact .ok
  | error d => exact .error (hasCredentials_defect d)

/-- With access, a token is in use, or the account is sent for one. -/
theorem Client.HasAccess.token_failsBy (h : c.HasAccess s) :
    FailsBy (c.token.runIn s).1 HasCredentials := by
  cases hs : s.token with
  | some t =>
    rw [runIn_token_of_some hs]
    exact .ok
  | none =>
    have haccount : c.hasAccount = true := h.resolve_left fun hset => hset hs
    obtain ⟨after, hlogin⟩ := exists_runIn_login (s := s) haccount
    rw [runIn_token, hs, hlogin]
    exact (Request.result_failsBy _ _).bind tokenIn_failsBy

theorem Client.HasAccess.ask_failsBy (h : c.HasAccess s) (method : Method) (path : String)
    (body : Json) : FailsBy ((c.ask method path body).runIn s).1 HasCredentials := by
  have hfails := h.token_failsBy
  rw [runIn_ask]
  rcases htoken : c.token.runIn s with ⟨e | t, s₁⟩ <;> rw [htoken] at hfails
  · exact .error (hfails e rfl)
  · exact Request.result_failsBy _ _

theorem Client.HasAccess.read_failsBy (h : c.HasAccess s) {method : Method} {path : String}
    {body : Json} {read : Json → Except Defect β} :
    FailsBy ((c.ask method path body >>= fun answer => Exchange.lift (read answer)).runIn s).1
      HasCredentials := by
  rw [Exchange.runIn_bind_of_reads fun answer s => Exchange.runIn_lift (read answer) s]
  exact (h.ask_failsBy method path body).bind fun answer => lifted_failsBy _

theorem Client.HasAccess.submit_failsBy (h : c.HasAccess s) (body : Json) :
    FailsBy ((c.submit body).runIn s).1 HasCredentials := by
  cases hbody : body.toMembers with
  | error d =>
    rw [Client.submit, Exchange.runIn_bind, Exchange.runIn_lift, hbody]
    exact .error (hasCredentials_defect d)
  | ok members =>
    rw [runIn_submit hbody]
    refine (h.ask_failsBy _ _ _).bind fun answer => ?_
    rw [Client.jobIn]
    split
    · exact .ok
    · exact .error (hasCredentials_error (by simp))

/-- **With access, no query of a watch fails for want of credentials.** -/
theorem Watcher.asked_failsBy {job : Json} (w : Watcher c job) {st st' : w.State}
    {sights : List (Job.Sight (Fault Error) Job.Time)} (h : w.world.Shows st sights st')
    (haccess : c.HasAccess (w.session st)) :
    ∀ now answer, .asked now answer ∈ sights → FailsBy answer HasCredentials := by
  induction h with
  | nil => exact nofun
  | @read st now st₁ sights st' hclock _ ih =>
    have hsession := w.clock st
    rw [hclock] at hsession
    rw [← hsession] at haccess
    simpa using ih haccess
  | @waited st time st₁ isCancelled sights st' hwait _ _ ih =>
    have hsession : w.session st₁ = w.session st := hwait ▸ w.session_wait _ _
    rw [← hsession] at haccess
    simpa using ih haccess
  | @asked st now st₁ answer st₂ sights st' hclock hquery _ ih =>
    have hsession := w.clock st
    rw [hclock] at hsession
    rw [← hsession] at haccess
    have hrun := w.query st₁
    rw [hquery] at hrun
    have hfails : FailsBy ((c.queryStatus job).runIn (w.session st₁)).1 HasCredentials :=
      haccess.read_failsBy
    have hkept : c.HasAccess ((c.queryStatus job).runIn (w.session st₁)).2 :=
      haccess.run (.queryStatus job)
    rw [← hrun] at hfails hkept
    intro now' answer' hmem
    rcases List.mem_cons.1 hmem with heq | hmem
    · cases heq
      exact hfails
    · exact ih hkept now' answer' hmem

/-- The same of all of a watch. -/
theorem Client.HasAccess.await_failure? (h : c.HasAccess s) {job : Json} (w : Watcher c job)
    (schedule : Job.Schedule) :
    (Call.await w schedule).failure? s ≠ some (.error .noCredentials) := by
  rw [Call.failure?, ne_eq, queryFailure_eq_some_iff, Job.World.awaitBy]
  cases schedule.plan with
  | error d => rintro ⟨⟩
  | ok plan =>
    obtain ⟨sights, hshows, -, hawaits⟩ := w.world.await_awaits plan (w.start s)
    rw [(hawaits.safe Job.Time.not_zero_lt_zero).raised]
    rintro ⟨now, hmem⟩
    rw [← w.session_start s] at h
    exact w.asked_failsBy hshows h now _ hmem _ rfl rfl

end

/-! ## Calls -/

/-- **With access, no call but a login fails for want of credentials**, in every session and
whatever the replies are. -/
theorem Call.failure?_of_hasAccess {c : Client} {s : Session} (h : c.HasAccess s) {call : Call c}
    (hcall : call ≠ .login) : call.failure? s ≠ some (.error .noCredentials) := by
  have hfailure {α : Type} {x : Exchange α} (hx : FailsBy (x.runIn s).1 HasCredentials) :
      x.failure? s ≠ some (.error .noCredentials) := fun hnone =>
    hx _ (failureOf_eq_some_iff.1 hnone) rfl
  cases call with
  | login => exact absurd rfl hcall
  | apiVersion =>
    refine hfailure ?_
    rw [Client.apiVersion, Exchange.runIn_send]
    exact Request.result_failsBy _ _
  | submit body => exact hfailure (h.submit_failsBy body)
  | statusRecord job => exact hfailure (h.ask_failsBy _ _ _)
  | queryStatus job => exact hfailure h.read_failsBy
  | await w schedule => exact h.await_failure? w schedule
  | issues job => exact hfailure (h.ask_failsBy _ _ _)
  | findings job => exact hfailure h.read_failsBy
  | analyses => exact hfailure (h.ask_failsBy _ _ _)

end ContractAudit.Service
