/-
  The token of a client through all of its calls.

  * A `Call` is what a client can be asked for.  Waiting for a job is one in any surroundings: a
    `Watcher` is a world with a clock, waits and cancellations of its own, in which nothing but the
    queries of the client touches the session.
  * `Asks` are the turns that the calls with a token allow: each request carries the token in use,
    and where there is none a login comes first, whose failure is the end.  `Call.exists_asks`:
    every such call has turns of this kind.
  * `Course`: what the turns of one call do to the token and carry of it, and `Call.exists_course`:
    they do so in every session.
  * `conversation_authenticated`: so does every sequence of calls.
-/
import ContractAudit.Proofs.Job.Safety
import ContractAudit.Proofs.Service.Turns
import ContractAudit.Service.Watch

namespace ContractAudit.Service

/-! ## Calls -/

/-- A world in which the client watches a job: its queries are those of the client, in the session
that `session` reads off a state, and nothing else touches that. -/
structure Watcher (c : Client) (job : Json) where
  State : Type
  world : Job.World State (Fault Error) Job.Time
  start : Session → State
  session : State → Session
  session_start : ∀ s, session (start s) = s
  query : ∀ w, ((world.query w).1, session (world.query w).2) =
    (c.queryStatus job).runIn (session w)
  clock : ∀ w, session (world.clock w).2 = session w
  pause : ∀ time w, session (world.pause time w) = session w

/-- The watch of a client, on a clock that moves with the waits only. -/
def Client.watcher (c : Client) (job : Json) : Watcher c job where
  State := Watch
  world := c.world job
  start s := { session := s }
  session w := w.session
  session_start _ := rfl
  query _ := rfl
  clock _ := rfl
  pause _ _ := rfl

/-- What a client can be asked for. -/
inductive Call (c : Client) where
  | login
  | apiVersion
  | submit (body : Json)
  | statusRecord (job : Json)
  | queryStatus (job : Json)
  | await {job : Json} (w : Watcher c job) (schedule : Job.Schedule)
  | issues (job : Json)
  | findings (job : Json)
  | analyses

namespace Call

variable {c : Client}

/-- The session after a call, whatever its answer is. The findings of a job are read from its issue
reports. -/
def run : Call c → Session → Session
  | login, s => (c.login.runIn s).2
  | apiVersion, s => (c.apiVersion.runIn s).2
  | submit body, s => ((c.submit body).runIn s).2
  | statusRecord job, s => ((c.statusRecord job).runIn s).2
  | queryStatus job, s => ((c.queryStatus job).runIn s).2
  | await w schedule, s => w.session (w.world.awaitBy schedule (w.start s)).world
  | issues job, s => ((c.issues job).runIn s).2
  | findings job, s => ((c.issues job).runIn s).2
  | analyses, s => (c.analyses.runIn s).2

/-- Whether the requests of a call need a token. -/
def needsToken : Call c → Bool
  | login | apiVersion => false
  | _ => true

end Call

/-- Whether a request is that of a login. -/
def Client.IsLogin (c : Client) (r : Request) : Prop :=
  r.method = .post ∧ r.url = c.resource "auth/login"

/-! ## Requests with a token -/

/-- Turns of calls that need a token. -/
inductive Asks (c : Client) : Session → List Turn → Session → Prop
  | done {s} : Asks c s [] s
  | asked {s t r turns s'} : s.token = some t → r.token = some t → ¬ c.IsLogin r →
      Asks c (s.next r (some t)) turns s' → Asks c s (s.turn r (some t) :: turns) s'
  | loggedIn {s t r turns s'} : s.token = none → c.hasAccount = true →
      Grants (s.hear c.loginRequest).1 t → r.token = some t → ¬ c.IsLogin r →
      Asks c ((s.next c.loginRequest (some t)).next r (some t)) turns s' →
      Asks c s (s.turn c.loginRequest (some t) ::
        (s.next c.loginRequest (some t)).turn r (some t) :: turns) s'
  | refused {s} : s.token = none → c.hasAccount = true →
      (∀ t, ¬ Grants (s.hear c.loginRequest).1 t) →
      Asks c s [s.turn c.loginRequest none] (s.next c.loginRequest none)

section
variable {c : Client} {s : Session}

theorem not_isLogin_get {path : String} {body : Json} {token : Option Json} :
    ¬ c.IsLogin { c.openRequest .get path body with token } := by
  rintro ⟨h, -⟩
  cases h

theorem not_isLogin_submit {body : Json} {token : Option Json} :
    ¬ c.IsLogin { c.openRequest .post "analyses" body with token } := by
  rintro ⟨-, h⟩
  replace h : c.url ++ "/" ++ "analyses" = c.url ++ "/" ++ "auth/login" := h
  rw [String.append_right_inj] at h
  exact absurd h (by decide)

theorem runIn_token : c.token.runIn s =
    match s.token with
    | some t => (.ok t, s)
    | none => c.login.runIn s := by
  have htoken : c.token.runIn s =
      (match s.token with
        | some t => pure t
        | none => c.login : Exchange Json).runIn s := rfl
  rw [htoken]
  cases s.token <;> rfl

/-- The turns of an exchange are such that more may follow, unless it fails. -/
def Continues {α : Type} (c : Client) (x : Exchange α) (s : Session) : Prop :=
  (∃ turns, ∀ more s', Asks c (x.runIn s).2 more s' → Asks c s (turns ++ more) s') ∨
    ∃ turns, Asks c s turns (x.runIn s).2 ∧ ∃ e, (x.runIn s).1 = .error e

section
variable {α β : Type} {x : Exchange α} {f : α → Exchange β}

theorem Continues.exists_asks (h : Continues c x s) : ∃ turns, Asks c s turns (x.runIn s).2 := by
  rcases h with ⟨turns, hmore⟩ | ⟨turns, hasks, -⟩
  · exact ⟨turns ++ [], hmore [] _ .done⟩
  · exact ⟨turns, hasks⟩

/-- What is made of an answer without the service makes no difference. -/
theorem Continues.bind (h : Continues c x s) (hf : ∀ a s, ((f a).runIn s).2 = s) :
    Continues c (x >>= f) s := by
  rw [Continues, Exchange.runIn_bind]
  rw [Continues] at h
  generalize x.runIn s = r at h ⊢
  obtain ⟨e | a, s₁⟩ := r
  · rcases h with hmore | ⟨turns, hasks, -⟩
    · exact .inl hmore
    · exact .inr ⟨turns, hasks, e, rfl⟩
  · rcases h with ⟨turns, hmore⟩ | ⟨turns, hasks, e, he⟩
    · refine .inl ⟨turns, fun more s' hasks => hmore more s' ?_⟩
      simp only [hf] at hasks
      exact hasks
    · cases he

end

/-- **A request with a token continues a conversation.** -/
theorem ask_continues {method : Method} {path : String} {body : Json}
    (hrequest : ∀ token, ¬ c.IsLogin { c.openRequest method path body with token }) :
    Continues c (c.ask method path body) s := by
  rw [Continues, Client.ask, Exchange.runIn_bind, runIn_token]
  cases hs : s.token with
  | some t =>
    simp only [Exchange.runIn_send, hs]
    exact .inl ⟨[s.turn _ (some t)], fun more s' hasks => .asked hs rfl (hrequest _) hasks⟩
  | none =>
    cases haccount : c.hasAccount with
    | false =>
      simp only [c.runIn_login_of_noAccount s haccount]
      exact .inr ⟨[], .done, _, rfl⟩
    | true =>
      rcases c.runIn_login s haccount with ⟨t, hgrants, hlogin⟩ | ⟨hrefused, e, hlogin⟩
      · simp only [hlogin, Exchange.runIn_send, Session.next_token]
        exact .inl
          ⟨[s.turn c.loginRequest (some t), (s.next c.loginRequest (some t)).turn _ (some t)],
            fun more s' hasks => .loggedIn hs haccount hgrants rfl (hrequest _) hasks⟩
      · simp only [hlogin, hs]
        exact .inr ⟨[s.turn c.loginRequest none], .refused hs haccount hrefused, e, rfl⟩

theorem Continues.of_lift {α β : Type} {x : Except Defect α} {f : α → Exchange β}
    (h : ∀ a, Continues c (f a) s) : Continues c (Exchange.lift x >>= f) s := by
  rw [Continues, Exchange.runIn_bind, Exchange.runIn_lift]
  cases x with
  | error d => exact .inr ⟨[], .done, _, rfl⟩
  | ok a => exact h a

theorem statusRecord_continues (job : Json) : Continues c (c.statusRecord job) s :=
  ask_continues fun _ => not_isLogin_get

theorem issues_continues (job : Json) : Continues c (c.issues job) s :=
  ask_continues fun _ => not_isLogin_get

theorem analyses_continues : Continues c c.analyses s :=
  ask_continues fun _ => not_isLogin_get

theorem submit_continues (body : Json) : Continues c (c.submit body) s := by
  refine .of_lift fun members => (ask_continues fun _ => not_isLogin_submit).bind fun answer s => ?_
  dsimp only
  split <;> rfl

theorem queryStatus_continues (job : Json) : Continues c (c.queryStatus job) s :=
  (statusRecord_continues job).bind fun answer s => by rw [Exchange.runIn_lift]

end

/-! ## Watches -/

section
variable {c : Client} {job : Json} (w : Watcher c job)

theorem Watcher.session_wait (time : Job.Time) (st : w.State) :
    w.session (w.world.wait time st) = w.session st := by
  rw [Job.World.wait]
  split
  · exact w.pause time st
  · rfl

/-- **The queries of a watch have turns with a token**, whatever its surroundings are. -/
theorem Watcher.exists_asks {st st' : w.State} {sights : List (Job.Sight (Fault Error) Job.Time)}
    (h : w.world.Shows st sights st') (hstops : ∀ x ∈ sights.dropLast, x.isStop = false) :
    ∃ turns, Asks c (w.session st) turns (w.session st') := by
  induction h with
  | nil => exact ⟨[], .done⟩
  | @read st now st₁ sights st' hclock _ ih =>
    have hsession := w.clock st
    rw [hclock] at hsession
    exact hsession ▸ ih (Job.forall_mem_dropLast_of_cons hstops)
  | waited hwait _ _ ih =>
    exact (hwait ▸ w.session_wait _ _) ▸ ih (Job.forall_mem_dropLast_of_cons hstops)
  | @asked st now st₁ answer st₂ sights st' hclock hquery hshows ih =>
    have hsession := w.clock st
    rw [hclock] at hsession
    have hrun := w.query st₁
    rw [hquery] at hrun
    rw [← hsession]
    have hcontinues : Continues c (c.queryStatus job) (w.session st₁) := queryStatus_continues job
    rcases hcontinues with ⟨turns, hmore⟩ | ⟨turns, hasks, e, he⟩
    · obtain ⟨more, hasks⟩ := ih (Job.forall_mem_dropLast_of_cons hstops)
      rw [← hrun] at hmore
      exact ⟨turns ++ more, hmore more _ hasks⟩
    · -- the run stops at a query that fails
      rw [← hrun] at hasks he
      obtain rfl : answer = .error e := he
      cases sights with
      | nil =>
        cases hshows
        exact ⟨turns, hasks⟩
      | cons => cases hstops (.asked now (.error e)) List.mem_cons_self

end

/-- **Every call that needs a token has turns with one.** -/
theorem Call.exists_asks {c : Client} (call : Call c) (s : Session) (h : call.needsToken = true) :
    ∃ turns, Asks c s turns (call.run s) := by
  cases call with
  | login => cases h
  | apiVersion => cases h
  | submit body => exact (submit_continues body).exists_asks
  | statusRecord job => exact (statusRecord_continues job).exists_asks
  | queryStatus job => exact (queryStatus_continues job).exists_asks
  | issues job => exact (issues_continues job).exists_asks
  | findings job => exact (issues_continues job).exists_asks
  | analyses => exact analyses_continues.exists_asks
  | await w schedule =>
    rw [run, Job.World.awaitBy]
    cases hplan : schedule.plan with
    | error d => exact ⟨[], by simpa only [w.session_start] using Asks.done⟩
    | ok plan =>
      obtain ⟨sights, hshows, -, hawaits⟩ := w.world.await_awaits plan (w.start s)
      have hasks := w.exists_asks hshows (hawaits.safe Job.Time.not_zero_lt_zero).stops
      rwa [w.session_start] at hasks

/-! ## What turns do to the token -/

/-- What the turns of a call do to the token, and carry of it. -/
structure Course (c : Client) (call : Call c) (s : Session) (turns : List Turn) (s' : Session) :
    Prop where
  talks : Talks s turns s'
  /-- Only a login changes the token, and only to one that it is granted. -/
  changes : ∀ turn ∈ turns, turn.after ≠ turn.before →
    c.IsLogin turn.request ∧ ∃ t, Grants turn.reply t ∧ turn.after = some t
  /-- A token that is granted is in use from then on, whatever becomes of the call. -/
  kept : ∀ turn ∈ turns, c.IsLogin turn.request → ∀ t, Grants turn.reply t →
    turn.after = some t ∧ s'.token = some t
  /-- Nothing is sent after a login that is granted no token. -/
  refused : ∀ turn ∈ turns.dropLast, c.IsLogin turn.request → ∃ t, Grants turn.reply t
  /-- Nothing is sent if a login is needed that is not possible. -/
  noAccount : c.hasAccount = false → call = .login ∨ call.needsToken = true ∧ s.token = none →
    turns = []
  /-- A call that is no login only logs in if it needs a token and there is none. -/
  lazily : call ≠ .login → ∀ turn ∈ turns, c.IsLogin turn.request →
    call.needsToken = true ∧ turn.before = none
  bare : ∀ turn ∈ turns, c.IsLogin turn.request ∨ call = .apiVersion →
    turn.request.headers = [("Accept", "application/json")]
  authorized : ∀ turn ∈ turns, ¬ c.IsLogin turn.request → call ≠ .apiVersion →
    ∃ t, turn.before = some t ∧ turn.request.headers =
      [("Accept", "application/json"), ("Authorization", "Bearer " ++ t.display)]

section
variable {c : Client} {s s' : Session} {turns : List Turn}

theorem isLogin_loginRequest (c : Client) : c.IsLogin c.loginRequest :=
  ⟨rfl, rfl⟩

/-- A reply grants one token at most. -/
theorem Grants.unique {reply : Reply} {t t' : Json} (h : Grants reply t) (h' : Grants reply t') :
    t = t' := by
  obtain ⟨_, _, _, hreply, -, hparse, _, _, hanswer, htokens, haccess, -⟩ := h
  obtain ⟨_, _, _, hreply', -, hparse', _, _, hanswer', htokens', haccess', -⟩ := h'
  rw [hreply] at hreply'
  cases hreply'
  rw [hparse] at hparse'
  cases hparse'
  rw [hanswer] at hanswer'
  cases hanswer'
  rw [htokens] at htokens'
  cases htokens'
  rw [haccess] at haccess'
  exact Option.some.inj haccess'

namespace Asks

theorem talks (h : Asks c s turns s') : Talks s turns s' := by
  induction h with
  | done => exact .nil
  | asked _ _ _ _ ih => exact .cons ih
  | loggedIn _ _ _ _ _ _ ih => exact .cons (.cons ih)
  | refused => exact .cons .nil

theorem token_eq {t : Json} (h : Asks c s turns s') (hs : s.token = some t) :
    s'.token = some t := by
  induction h with
  | done => exact hs
  | asked hs' _ _ _ ih => exact ih (hs'.symm.trans hs)
  | loggedIn hs' => exact absurd (hs'.symm.trans hs) nofun
  | refused hs' => exact absurd (hs'.symm.trans hs) nofun

/-- What holds of requests with a token, and of logins that are granted or refused one, holds of all
turns. -/
theorem forall_mem (h : Asks c s turns s') {P : Turn → Prop}
    (hasked : ∀ (s : Session) t r, s.token = some t → r.token = some t → ¬ c.IsLogin r →
      P (s.turn r (some t)))
    (hgranted : ∀ (s : Session) t, s.token = none → Grants (s.hear c.loginRequest).1 t →
      P (s.turn c.loginRequest (some t)))
    (hrefused : ∀ (s : Session), s.token = none → (∀ t, ¬ Grants (s.hear c.loginRequest).1 t) →
      P (s.turn c.loginRequest none)) : ∀ turn ∈ turns, P turn := by
  induction h with
  | done => exact List.forall_mem_nil _
  | asked hs ht hr _ ih => exact List.forall_mem_cons.2 ⟨hasked _ _ _ hs ht hr, ih⟩
  | loggedIn hs _ hgrants ht hr _ ih =>
    exact List.forall_mem_cons.2 ⟨hgranted _ _ hs hgrants,
      List.forall_mem_cons.2 ⟨hasked _ _ _ rfl ht hr, ih⟩⟩
  | refused hs _ hgrants => exact List.forall_mem_singleton.2 (hrefused _ hs hgrants)

theorem changes (h : Asks c s turns s') : ∀ turn ∈ turns, turn.after ≠ turn.before →
    c.IsLogin turn.request ∧ ∃ t, Grants turn.reply t ∧ turn.after = some t := by
  refine h.forall_mem (fun s t r hs _ _ hne => ?_) (fun s t _ hgrants _ => ?_) fun s hs _ hne => ?_
  · exact absurd hs.symm hne
  · exact ⟨isLogin_loginRequest c, t, hgrants, rfl⟩
  · exact absurd hs.symm hne

theorem lazily (h : Asks c s turns s') :
    ∀ turn ∈ turns, c.IsLogin turn.request → turn.before = none :=
  h.forall_mem (fun _ _ _ _ _ hr hlogin => absurd hlogin hr) (fun _ _ hs _ _ => hs)
    fun _ hs _ _ => hs

theorem bare (h : Asks c s turns s') : ∀ turn ∈ turns, c.IsLogin turn.request →
    turn.request.headers = [("Accept", "application/json")] :=
  h.forall_mem (fun _ _ _ _ _ hr hlogin => absurd hlogin hr) (fun _ _ _ _ _ => rfl)
    fun _ _ _ _ => rfl

theorem authorized (h : Asks c s turns s') : ∀ turn ∈ turns, ¬ c.IsLogin turn.request →
    ∃ t, turn.before = some t ∧ turn.request.headers =
      [("Accept", "application/json"), ("Authorization", "Bearer " ++ t.display)] := by
  have hlogin := isLogin_loginRequest c
  exact h.forall_mem (fun s t r hs ht _ _ => ⟨t, hs, by rw [Session.turn, Request.headers, ht]⟩)
    (fun _ _ _ _ hnot => absurd hlogin hnot) fun _ _ _ hnot => absurd hlogin hnot

theorem kept (h : Asks c s turns s') : ∀ turn ∈ turns, c.IsLogin turn.request →
    ∀ t, Grants turn.reply t → turn.after = some t ∧ s'.token = some t := by
  induction h with
  | done => exact List.forall_mem_nil _
  | asked _ _ hr _ ih => exact List.forall_mem_cons.2 ⟨fun hlogin => absurd hlogin hr, ih⟩
  | loggedIn _ _ hgrants _ hr hasks ih =>
    refine List.forall_mem_cons.2 ⟨fun _ t hgrants' => ?_,
      List.forall_mem_cons.2 ⟨fun hlogin => absurd hlogin hr, ih⟩⟩
    obtain rfl := hgrants.unique hgrants'
    exact ⟨rfl, hasks.token_eq rfl⟩
  | refused _ _ hrefused =>
    exact List.forall_mem_singleton.2 fun _ t hgrants => absurd hgrants (hrefused t)

theorem granted_of_mem_dropLast (h : Asks c s turns s') :
    ∀ turn ∈ turns.dropLast, c.IsLogin turn.request → ∃ t, Grants turn.reply t := by
  induction h with
  | done => exact List.forall_mem_nil _
  | asked _ _ hr _ ih => exact Job.forall_mem_dropLast_cons (fun hlogin => absurd hlogin hr) ih
  | loggedIn _ _ hgrants _ hr _ ih =>
    exact Job.forall_mem_dropLast_cons (fun _ => ⟨_, hgrants⟩)
      (Job.forall_mem_dropLast_cons (fun hlogin => absurd hlogin hr) ih)
  | refused => exact List.forall_mem_nil _

theorem eq_nil_of_noAccount (h : Asks c s turns s') (haccount : c.hasAccount = false)
    (hs : s.token = none) : turns = [] := by
  cases h with
  | done => rfl
  | asked hs' => exact absurd (hs'.symm.trans hs) nofun
  | loggedIn _ haccount' => exact absurd (haccount'.symm.trans haccount) nofun
  | refused _ haccount' => exact absurd (haccount'.symm.trans haccount) nofun

end Asks

/-! ## Calls -/

section
variable (c : Client) (s : Session)

theorem course_apiVersion :
    Course c .apiVersion s [s.turn (c.openRequest .get "version" .null) s.token]
      ((Call.apiVersion : Call c).run s) := by
  have hlogin : ¬ c.IsLogin (c.openRequest .get "version" .null) := not_isLogin_get
  have hrun : (Call.apiVersion : Call c).run s =
      s.next (c.openRequest .get "version" .null) s.token := by
    rw [Call.run, Client.apiVersion, Exchange.runIn_send]
  exact {
    talks := hrun ▸ .cons .nil
    changes := List.forall_mem_singleton.2 fun hne => absurd rfl hne
    kept := List.forall_mem_singleton.2 fun h => absurd h hlogin
    refused := List.forall_mem_nil _
    noAccount := by rintro - (h | ⟨h, -⟩) <;> cases h
    lazily := fun _ => List.forall_mem_singleton.2 fun h => absurd h hlogin
    bare := List.forall_mem_singleton.2 fun _ => rfl
    authorized := fun _ _ _ h => absurd rfl h }

/-- A login sends nothing without an account, and else one request. -/
theorem exists_course_login : ∃ turns, Course c .login s turns ((Call.login : Call c).run s) := by
  have hlogin := isLogin_loginRequest c
  rw [Call.run]
  cases haccount : c.hasAccount with
  | false =>
    rw [c.runIn_login_of_noAccount s haccount]
    have hnone {P : Turn → Prop} : ∀ turn ∈ [], P turn := List.forall_mem_nil P
    exact ⟨[], .nil, hnone, hnone, hnone, fun _ _ => rfl, fun _ => hnone, hnone, hnone⟩
  | true =>
    have hnever : c.hasAccount = false → ¬ c.hasAccount = true := fun h => by simp [h]
    rcases c.runIn_login s haccount with ⟨t, hgrants, hrun⟩ | ⟨hrefused, e, hrun⟩
    · rw [hrun]
      refine ⟨[s.turn c.loginRequest (some t)], ?_⟩
      exact {
        talks := .cons .nil
        changes := List.forall_mem_singleton.2 fun _ => ⟨hlogin, t, hgrants, rfl⟩
        kept := List.forall_mem_singleton.2 fun _ t' hgrants' => by
          obtain rfl := hgrants.unique hgrants'
          exact ⟨rfl, rfl⟩
        refused := List.forall_mem_nil _
        noAccount := fun h => absurd haccount (hnever h)
        lazily := fun h => absurd rfl h
        bare := List.forall_mem_singleton.2 fun _ => rfl
        authorized := List.forall_mem_singleton.2 fun h => absurd hlogin h }
    · rw [hrun]
      refine ⟨[s.turn c.loginRequest s.token], ?_⟩
      exact {
        talks := .cons .nil
        changes := List.forall_mem_singleton.2 fun hne => absurd rfl hne
        kept := List.forall_mem_singleton.2 fun _ t hgrants => absurd hgrants (hrefused t)
        refused := List.forall_mem_nil _
        noAccount := fun h => absurd haccount (hnever h)
        lazily := fun h => absurd rfl h
        bare := List.forall_mem_singleton.2 fun _ => rfl
        authorized := List.forall_mem_singleton.2 fun h => absurd hlogin h }

end

/-- What asks with a token takes the course of a call that needs one. -/
theorem Asks.course {call : Call c} (h : Asks c s turns s') (hcall : call.needsToken = true) :
    Course c call s turns s' where
  talks := h.talks
  changes := h.changes
  kept := h.kept
  refused := h.granted_of_mem_dropLast
  noAccount haccount hneeds := by
    rcases hneeds with rfl | ⟨-, hs⟩
    · cases hcall
    · exact h.eq_nil_of_noAccount haccount hs
  lazily _ turn hturn hlogin := ⟨hcall, h.lazily turn hturn hlogin⟩
  bare turn hturn hbare := by
    rcases hbare with hlogin | rfl
    · exact h.bare turn hturn hlogin
    · cases hcall
  authorized turn hturn hlogin _ := h.authorized turn hturn hlogin

/-- **In every session a call takes its course.** -/
theorem Call.exists_course {c : Client} (call : Call c) (s : Session) :
    ∃ turns, Course c call s turns (call.run s) := by
  cases hcall : call.needsToken with
  | true =>
    obtain ⟨turns, hasks⟩ := call.exists_asks s hcall
    exact ⟨turns, hasks.course hcall⟩
  | false =>
    cases call with
    | login => exact exists_course_login c s
    | apiVersion => exact ⟨_, course_apiVersion c s⟩
    | _ => cases hcall

end

/-! ## Sequences of calls -/

/-- The session after some calls, one after the other. -/
def runAll {c : Client} (calls : List (Call c)) (s : Session) : Session :=
  calls.foldl (fun s call => call.run s) s

/-- Calls one after the other, each with its turns. -/
inductive Conversation (c : Client) : Session → List (Call c × List Turn) → Session → Prop
  | nil {s} : Conversation c s [] s
  | cons {s call turns s₁ courses s'} : Course c call s turns s₁ →
      Conversation c s₁ courses s' → Conversation c s ((call, turns) :: courses) s'

section
variable {c : Client} {s s' : Session} {courses : List (Call c × List Turn)}

theorem Course.keeps {call : Call c} {turns : List Turn} (h : Course c call s turns s') :
    ∀ turn ∈ turns, turn.before ≠ none → turn.after ≠ none := by
  intro turn hturn hbefore hafter
  have hne : turn.after ≠ turn.before := fun heq => hbefore (heq ▸ hafter)
  obtain ⟨-, t, -, ht⟩ := h.changes turn hturn hne
  rw [hafter] at ht
  cases ht

theorem Conversation.talks (h : Conversation c s courses s') :
    Talks s (courses.flatMap Prod.snd) s' := by
  induction h with
  | nil => exact .nil
  | cons hcourse _ ih => exact hcourse.talks.append ih

/-- **Once a token is set, no call but a login logs in.** -/
theorem Conversation.not_isLogin (h : Conversation c s courses s')
    {earlier later : List (Call c × List Turn)} {call : Call c} {turns : List Turn}
    (hsplit : courses = earlier ++ (call, turns) :: later)
    (hset : s.token ≠ none ∨ ∃ turn ∈ earlier.flatMap Prod.snd, turn.after ≠ none)
    (hcall : call ≠ .login) : ∀ turn ∈ turns, ¬ c.IsLogin turn.request := by
  induction h generalizing earlier with
  | nil => simp at hsplit
  | @cons s call₁ turns₁ s₁ courses s' hcourse _ ih =>
    cases earlier with
    | nil =>
      obtain ⟨⟨rfl, rfl⟩, -⟩ : (call₁ = call ∧ turns₁ = turns) ∧ courses = later := by
        simpa using hsplit
      have hs : s.token ≠ none := by simpa using hset
      intro turn hturn hlogin
      obtain ⟨-, hbefore⟩ := hcourse.lazily hcall turn hturn hlogin
      exact hcourse.talks.before_ne_none hcourse.keeps hs turn hturn hbefore
    | cons first earlier =>
      obtain ⟨rfl, htail⟩ : (call₁, turns₁) = first ∧
          courses = earlier ++ (call, turns) :: later := by
        simpa using hsplit
      refine ih htail ?_
      -- a token that was set in the first call is still set after it
      have hkeeps := hcourse.talks.token_ne_none hcourse.keeps
      rcases hset with hs | ⟨turn, hturn, hafter⟩
      · exact .inl (hkeeps (.inl hs))
      · rw [List.flatMap_cons, List.mem_append] at hturn
        rcases hturn with hturn | hturn
        · exact .inl (hkeeps (.inr ⟨turn, hturn, hafter⟩))
        · exact .inr ⟨turn, hturn, hafter⟩

end

/-- **The calls of a client deal with the token as they should**, in every session, whatever the
replies are and in whatever order the calls come. Each call takes its course from the session that
the one before it leaves, what is sent are the requests of these courses, and once a token is set no
call but a login logs in. -/
theorem conversation_authenticated (c : Client) (calls : List (Call c)) (s : Session) :
    ∃ courses : List (Call c × List Turn),
      courses.map Prod.fst = calls ∧
      Conversation c s courses (runAll calls s) ∧
      (runAll calls s).sent = s.sent ++ (courses.flatMap Prod.snd).map Turn.request ∧
      ∀ earlier call turns later, courses = earlier ++ (call, turns) :: later →
        (s.token ≠ none ∨ ∃ turn ∈ earlier.flatMap Prod.snd, turn.after ≠ none) →
        call ≠ .login → ∀ turn ∈ turns, ¬ c.IsLogin turn.request := by
  have hconversation : ∃ courses : List (Call c × List Turn), courses.map Prod.fst = calls ∧
      Conversation c s courses (runAll calls s) := by
    induction calls generalizing s with
    | nil => exact ⟨[], rfl, .nil⟩
    | cons call calls ih =>
      obtain ⟨turns, hcourse⟩ := call.exists_course s
      obtain ⟨courses, hcalls, hrest⟩ := ih (call.run s)
      exact ⟨(call, turns) :: courses, by rw [List.map_cons, hcalls], .cons hcourse hrest⟩
  obtain ⟨courses, hcalls, hconversation⟩ := hconversation
  exact ⟨courses, hcalls, hconversation, hconversation.talks.sent_eq,
    fun _ _ _ _ hsplit hset hcall => hconversation.not_isLogin hsplit hset hcall⟩

end ContractAudit.Service
