/-
  Calls of a client stop at the first reply that they cannot use.

  * A reply is usable (`Reply.isUsable`) if it is an answer below 400 with a body that is not
    refused; `Reply.RaisedAs` is the failure that any other reply has to be raised as.  A strict
    reader would not refuse less (`isUsable_of_hasJson`), and more only where a word stands for a
    number (`hasJson_or_holdsWord`).
  * `Heard s turns failure s'`: in the turns only the last reply may be unusable, and it is raised.
    Turns that raise nothing may be followed by others (`Heard.append`).
  * `Acquires` are the ways to a token, and `exists_acquires` says that each request with a token
    begins with one of them; `Watcher.exists_turns` are the queries of a watch, one for each of its
    answers.
  * `Call.exists_stops`: every call stops, and sends no more requests than it has to.  A body that
    is no JSON can all the same be taken for a result (`word_is_taken_for_result`).
-/
import ContractAudit.Proofs.Answers
import ContractAudit.Proofs.Json.Strict
import ContractAudit.Proofs.Service.Tokens

namespace ContractAudit.Service

/-! ## Usable replies -/

namespace Reply

/-- Whether there is a result in a reply: an answer below 400 with JSON in its body, or with JSON in
which words stand for numbers. -/
def isUsable : Reply → Bool
  | answer status body => decide (status < 400) && (Json.parse? body).isSome
  | _ => false

/-- The status of the answer, if there is one. -/
def status? : Reply → Option Int
  | answer status _ => some status
  | _ => none

/-- The text of the answer, if there is one. -/
def body : Reply → String
  | answer _ body => body
  | _ => ""

/-- The failure tells of the reply: it is an error of the service with the status and the body of
the answer, or the defect by which nothing can be had from the reply. -/
def RaisedAs (reply : Reply) : Fault Error → Prop
  | .defect d => reply.BreaksBy d
  | .error e => (∀ d, ¬ reply.BreaksBy d) ∧ e.status? = reply.status? ∧ e.body = reply.body

variable {reply : Reply}

end Reply

namespace Request

variable {r : Request} {reply : Reply}

theorem isUsable_of_result {v : Json} (h : r.result reply = .ok v) : reply.isUsable = true := by
  obtain ⟨status, body, rfl, hstatus, hparse⟩ := result_eq_ok.1 h
  simp [Reply.isUsable, hstatus, hparse]

theorem exists_result_eq_error (h : reply.isUsable = false) :
    ∃ e, r.result reply = .error e := by
  cases hresult : r.result reply with
  | error e => exact ⟨e, rfl⟩
  | ok v =>
    rw [isUsable_of_result hresult] at h
    cases h

theorem raisedAs_of_result {e : Fault Error} (h : r.result reply = .error e) :
    reply.RaisedAs e := by
  cases e with
  | defect d => exact result_eq_defect_iff.1 h
  | error e =>
    refine ⟨fun d hd => ?_, ?_⟩
    · cases h.symm.trans (result_eq_defect_iff.2 hd)
    · cases reply with
      | lost reason => cases h; exact ⟨rfl, rfl⟩
      | broken d => cases h
      | answer status body =>
        rw [result] at h
        split at h
        · cases h; exact ⟨rfl, rfl⟩
        · split at h <;> cases h
          exact ⟨rfl, rfl⟩

end Request

/-! ## Turns up to a failure -/

theorem Exchange.runIn_bind_of_still {α β : Type} {x : Exchange α} {f : α → Exchange β}
    (hf : ∀ a s, ((f a).runIn s).2 = s) (s : Session) :
    ((x >>= f).runIn s).2 = (x.runIn s).2 := by
  rw [runIn_bind]
  rcases x.runIn s with ⟨e | a, s₁⟩
  · rfl
  · exact hf a s₁

/-- The failure in a result. -/
def failureOf {ε α : Type} : Except ε α → Option ε
  | .ok _ => none
  | .error e => some e

/-- The failure by which an exchange ends. -/
def Exchange.failure? {α : Type} (x : Exchange α) (s : Session) : Option (Fault Error) :=
  failureOf (x.runIn s).1

/-- Turns of which only the last one may have a reply that is not usable, and the failure by which
they end: it tells of that reply. -/
structure Heard (s : Session) (turns : List Turn) (failure : Option (Fault Error)) (s' : Session) :
    Prop where
  talks : Talks s turns s'
  /-- Only a usable reply is followed by another request. -/
  usable : ∀ turn ∈ turns.dropLast, turn.reply.isUsable = true
  /-- Any other reply is raised. -/
  raised : ∀ turn ∈ turns, turn.reply.isUsable = false →
    ∃ e, failure = some e ∧ turn.reply.RaisedAs e

namespace Heard

variable {s s₁ s' : Session} {turns more : List Turn} {failure : Option (Fault Error)}

theorem nil : Heard s [] failure s where
  talks := .nil
  usable := List.forall_mem_nil _
  raised := List.forall_mem_nil _

theorem singleton {r : Request} {after : Option Json}
    (h : ∀ e, r.result (s.hear r).1 = .error e → failure = some e) :
    Heard s [s.turn r after] failure (s.next r after) where
  talks := .cons .nil
  usable := List.forall_mem_nil _
  raised := List.forall_mem_singleton.2 fun hbad => by
    obtain ⟨e, he⟩ := r.exists_result_eq_error hbad
    exact ⟨e, h e he, Request.raisedAs_of_result he⟩

/-- Where nothing is raised, all replies are usable. -/
theorem usable_of_none (h : Heard s turns none s') :
    ∀ turn ∈ turns, turn.reply.isUsable = true := by
  intro turn hturn
  by_contra hbad
  obtain ⟨e, he, -⟩ := h.raised turn hturn (Bool.eq_false_iff.2 hbad)
  cases he

theorem append (h : Heard s turns none s₁) (h' : Heard s₁ more failure s') :
    Heard s (turns ++ more) failure s' where
  talks := h.talks.append h'.talks
  usable turn hturn := by
    cases more with
    | nil =>
      rw [List.append_nil] at hturn
      exact h.usable turn hturn
    | cons first more =>
      rw [List.dropLast_append_cons, List.mem_append] at hturn
      rcases hturn with hturn | hturn
      · exact h.usable_of_none turn hturn
      · exact h'.usable turn hturn
  raised turn hturn hbad := by
    rcases List.mem_append.1 hturn with hturn | hturn
    · exact absurd (h.usable_of_none turn hturn) (Bool.eq_false_iff.1 hbad)
    · exact h'.raised turn hturn hbad

theorem of_none (h : Heard s turns none s') : Heard s turns failure s' where
  talks := h.talks
  usable := h.usable
  raised turn hturn hbad := absurd (h.usable_of_none turn hturn) (Bool.eq_false_iff.1 hbad)

end Heard

/-! ## The way to a token -/

/-- The turns before a request with a token: a login at most. `answer` is the token, or what stands
in its way. -/
structure Acquires (c : Client) (s : Session) (logins : List Turn)
    (answer : Except (Fault Error) Json) (s₁ : Session) : Prop where
  heard : Heard s logins (failureOf answer) s₁
  token_eq : ∀ t, answer = .ok t → s₁.token = some t
  logins_eq : logins = [] ∨ ∃ turn, logins = [turn] ∧ c.IsLogin turn.request

/-- A login sends nothing without an account, and else one request. -/
theorem exists_acquires_login (c : Client) (s : Session) :
    ∃ logins, Acquires c s logins (c.login.runIn s).1 (c.login.runIn s).2 := by
  cases haccount : c.hasAccount with
  | false =>
    rw [c.runIn_login_of_noAccount s haccount]
    exact ⟨[], .nil, nofun, .inl rfl⟩
  | true =>
    have hlogin (after : Option Json) : ∃ turn, [s.turn c.loginRequest after] = [turn] ∧
        c.IsLogin turn.request := ⟨_, rfl, isLogin_loginRequest c⟩
    rw [c.runIn_login_of_account s haccount]
    cases hresult : c.loginRequest.result (s.hear c.loginRequest).1 with
    | error e =>
      exact ⟨_, .singleton fun e' he' => congrArg failureOf (hresult.symm.trans he'), nofun,
        .inr (hlogin _)⟩
    | ok answer =>
      have hok : ∀ {failure : Option (Fault Error)} e,
          c.loginRequest.result (s.hear c.loginRequest).1 = .error e → failure = some e :=
        fun e he => by cases hresult.symm.trans he
      cases htoken : Client.tokenIn answer with
      | error e =>
        simp only [htoken]
        exact ⟨_, .singleton hok, nofun, .inr (hlogin _)⟩
      | ok t =>
        simp only [htoken]
        exact ⟨_, .singleton hok, fun t' ht' => congrArg some (Except.ok.inj ht'), .inr (hlogin _)⟩

/-- **The way to a token is a login where there is none**, and else no request at all. -/
theorem exists_acquires (c : Client) (s : Session) :
    ∃ logins, Acquires c s logins (c.token.runIn s).1 (c.token.runIn s).2 ∧
      (logins = [] ∨ s.token = none ∧ ∃ turn, logins = [turn] ∧ c.IsLogin turn.request) := by
  rw [runIn_token]
  cases hs : s.token with
  | some t =>
    exact ⟨[], ⟨.nil, fun t' ht' => hs.trans (congrArg some (Except.ok.inj ht')), .inl rfl⟩,
      .inl rfl⟩
  | none =>
    obtain ⟨logins, hacquires⟩ := exists_acquires_login c s
    exact ⟨logins, hacquires, hacquires.logins_eq.imp_right fun h => ⟨rfl, h⟩⟩

/-! ## Requests with a token -/

section
variable {c : Client} {s s' : Session} {α β : Type}

/-- A request with a token. -/
def Client.tokenRequest (c : Client) (method : Method) (path : String) (body t : Json) : Request :=
  { c.openRequest method path body with token := some t }

theorem runIn_ask (method : Method) (path : String) (body : Json) :
    (c.ask method path body).runIn s =
      match c.token.runIn s with
      | (.error e, s₁) => (.error e, s₁)
      | (.ok t, s₁) =>
        ((c.tokenRequest method path body t).result
          (s₁.hear (c.tokenRequest method path body t)).1,
          s₁.next (c.tokenRequest method path body t) s₁.token) := by
  rw [Client.ask, Exchange.runIn_bind]
  rcases c.token.runIn s with ⟨e | t, s₁⟩
  · rfl
  · exact Exchange.runIn_send _ _

theorem runIn_ask_of_token {s₁ : Session} {t : Json} (h : c.token.runIn s = (.ok t, s₁))
    (method : Method) (path : String) (body : Json) :
    (c.ask method path body).runIn s =
      ((c.tokenRequest method path body t).result
        (s₁.hear (c.tokenRequest method path body t)).1,
        s₁.next (c.tokenRequest method path body t) s₁.token) := by
  rw [runIn_ask, h]

/-- Turns that ask for one resource `n` times at most, after a login if there is no token. -/
structure Sends (c : Client) (method : Method) (path : String) (n : Nat) (s : Session)
    (turns : List Turn) (failure : Option (Fault Error)) (s' : Session) : Prop where
  heard : Heard s turns failure s'
  split : ∃ logins others, turns = logins ++ others ∧
    (logins = [] ∨ s.token = none ∧ ∃ turn, logins = [turn] ∧ c.IsLogin turn.request) ∧
    others.length ≤ n ∧
    ∀ turn ∈ others, turn.request.method = method ∧ turn.request.url = c.resource path

section
variable {method : Method} {path : String} {n : Nat}

theorem Sends.nil {failure : Option (Fault Error)} : Sends c method path n s [] failure s where
  heard := .nil
  split := ⟨[], [], rfl, .inl rfl, Nat.zero_le n, List.forall_mem_nil _⟩

theorem Sends.mono {m : Nat} {turns : List Turn} {failure : Option (Fault Error)}
    (h : Sends c method path n s turns failure s') (hle : n ≤ m) :
    Sends c method path m s turns failure s' := by
  obtain ⟨logins, others, hturns, hlogins, hlength, hothers⟩ := h.split
  exact ⟨h.heard, logins, others, hturns, hlogins, hlength.trans hle, hothers⟩

theorem Sends.bind {x : Exchange α} {f : α → Exchange β} {turns : List Turn}
    (h : Sends c method path n s turns (x.failure? s) (x.runIn s).2)
    (hf : ∀ a s, ((f a).runIn s).2 = s) :
    Sends c method path n s turns ((x >>= f).failure? s) ((x >>= f).runIn s).2 := by
  rw [Exchange.runIn_bind_of_still hf]
  rw [Exchange.failure?] at h ⊢
  rw [Exchange.runIn_bind]
  generalize x.runIn s = r at h ⊢
  obtain ⟨e | a, s₁⟩ := r
  · exact h
  · exact ⟨h.heard.of_none, h.split⟩

end

/-- What a submission reads from the answer. -/
def Client.jobIn (answer : Json) : Except (Fault Error) Json :=
  if (memberOrNull answer "uuid").isSet then .ok (memberOrNull answer "uuid")
  else .error (.error .noJob)

theorem Client.eq_of_jobIn {answer job : Json} (h : jobIn answer = .ok job) :
    job = memberOrNull answer "uuid" := by
  rw [jobIn] at h
  split at h <;> cases h
  rfl

/-- A submission is a request with a token for the members of its body. -/
theorem runIn_submit {body : Json} {members : Json.Members} (h : body.toMembers = .ok members) :
    (c.submit body).runIn s =
      (((c.ask .post "analyses" (.obj members)).runIn s).1 >>= Client.jobIn,
        ((c.ask .post "analyses" (.obj members)).runIn s).2) := by
  have hsubmit : (c.submit body).runIn s =
      (c.ask .post "analyses" (.obj members) >>= fun answer =>
        if (memberOrNull answer "uuid").isSet then pure (memberOrNull answer "uuid")
        else Exchange.fail .noJob : Exchange Json).runIn s := by
    rw [Client.submit, Exchange.runIn_bind, Exchange.runIn_lift, h]
    rfl
  rw [hsubmit, Exchange.runIn_bind]
  rcases (c.ask .post "analyses" (.obj members)).runIn s with ⟨e | answer, s₁⟩
  · rfl
  · change _ = (Client.jobIn answer, s₁)
    rw [Client.jobIn]
    dsimp only
    split <;> rfl

end

/-! ## Watches -/

/-- What a query shows by its reply. -/
def Turn.observed (turn : Turn) : Except (Fault Error) Job.Observation :=
  turn.request.result turn.reply >>= fun answer => (observation answer).mapError .defect

/-- The request for the status of a job. -/
def Client.statusRequest (c : Client) (job t : Json) : Request :=
  c.tokenRequest .get (Client.jobPath job) .null t

section
variable {c : Client} {job : Json} {s s₁ : Session}

theorem runIn_queryStatus {t : Json} (h : c.token.runIn s = (.ok t, s₁)) :
    (c.queryStatus job).runIn s =
      ((s₁.turn (c.statusRequest job t) s₁.token).observed,
        s₁.next (c.statusRequest job t) s₁.token) := by
  rw [Client.queryStatus, Client.statusRecord, Exchange.runIn_bind, runIn_ask_of_token h]
  simp only [Turn.observed, Session.turn, Client.statusRequest]
  cases (c.tokenRequest .get (Client.jobPath job) .null t).result
      (s₁.hear (c.tokenRequest .get (Client.jobPath job) .null t)).1 with
  | error e => rfl
  | ok answer => exact Exchange.runIn_lift _ _

theorem runIn_token_of_some {t : Json} (h : s.token = some t) : c.token.runIn s = (.ok t, s) := by
  rw [runIn_token, h]

/-- **With a token, the queries of a watch are one turn for each answer.** -/
theorem Watcher.exists_turns (w : Watcher c job) {st st' : w.State}
    {sights : List (Job.Sight (Fault Error) Job.Time)} (h : w.world.Shows st sights st') {t : Json}
    (ht : (w.session st).token = some t) :
    ∃ turns, Talks (w.session st) turns (w.session st') ∧ (w.session st').token = some t ∧
      (∀ turn ∈ turns, turn.request = c.statusRequest job t) ∧
      Job.answersOf sights = turns.map Turn.observed := by
  induction h with
  | nil => exact ⟨[], .nil, ht, List.forall_mem_nil _, rfl⟩
  | @read st now st₁ sights st' hclock _ ih =>
    have hsession := w.clock st
    rw [hclock] at hsession
    rw [← hsession] at ht ⊢
    exact ih ht
  | @waited st time st₁ isCancelled sights st' hwait _ _ ih =>
    have hsession : w.session st₁ = w.session st := hwait ▸ w.session_wait _ _
    rw [← hsession] at ht ⊢
    exact ih ht
  | @asked st now st₁ answer st₂ sights st' hclock hquery _ ih =>
    have hsession := w.clock st
    rw [hclock] at hsession
    rw [← hsession] at ht ⊢
    have hrun := w.query st₁
    rw [hquery, runIn_queryStatus (runIn_token_of_some ht), Prod.mk.injEq] at hrun
    obtain ⟨hanswer, hnext⟩ := hrun
    obtain ⟨turns, htalks, htoken, hrequests, hanswers⟩ :=
      ih (by rw [hnext, Session.next_token, ht])
    rw [hnext] at htalks
    refine ⟨_ :: turns, .cons htalks, htoken, List.forall_mem_cons.2 ⟨rfl, hrequests⟩, ?_⟩
    rw [Job.answersOf_asked, hanswers, List.map_cons, ← hanswer]

/-- The failure of a query by which a watch ends. -/
def queryFailure :
    Except (Job.Failure (Fault Error) Job.Time) (Job.State Job.Time) → Option (Fault Error)
  | .error (.query e) => some e
  | _ => none

variable {sights : List (Job.Sight (Fault Error) Job.Time)}
  {outcome : Except (Job.Failure (Fault Error) Job.Time) (Job.State Job.Time)}

/-- The queries of a safe watch stop at the first one that fails. -/
theorem heard_of_safe {n : Nat} {turns : List Turn} {s' : Session} (htalks : Talks s turns s')
    (hanswers : Job.answersOf sights = turns.map Turn.observed)
    (hsafe : Job.Safe n sights outcome) :
    Heard s turns (queryFailure outcome) s' where
  talks := htalks
  usable turn hturn := by
    have hmem : turn.observed ∈ (Job.answersOf sights).dropLast := by
      rw [hanswers, ← List.map_dropLast]
      exact List.mem_map_of_mem hturn
    obtain ⟨o, ho, -⟩ := hsafe.earlier _ hmem
    cases hresult : turn.request.result turn.reply with
    | ok v => exact Request.isUsable_of_result hresult
    | error e =>
      rw [Turn.observed, hresult] at ho
      cases ho
  raised turn hturn hbad := by
    obtain ⟨e, he⟩ := turn.request.exists_result_eq_error hbad
    have hmem : .error e ∈ Job.answersOf sights := by
      rw [hanswers, List.mem_map]
      exact ⟨turn, hturn, by rw [Turn.observed, he]; rfl⟩
    rw [(hsafe.raised e).2 (Job.exists_asked_of_mem hmem)]
    exact ⟨e, rfl, Request.raisedAs_of_result he⟩

variable (job) in
/-- **With a token, a watch is one turn for each query**, and it only returns what the last of them
shows. -/
theorem exists_watched (schedule : Job.Schedule) {t : Json} (ht : s.token = some t) :
    ∃ turns, Heard s turns (queryFailure (c.watch job schedule s).outcome)
        (c.watch job schedule s).world.session ∧
      (c.watch job schedule s).world.session.token = some t ∧
      (∀ turn ∈ turns, turn.request = c.statusRequest job t) ∧
      turns.length ≤ (schedule.maxAttempts + 1).toNat ∧
      ∀ state, (c.watch job schedule s).outcome = .ok state →
        ∃ last o, turns.getLast? = some last ∧ last.observed = .ok o ∧ o.status = state.status ∧
          o.status.isTerminal = true := by
  rw [Client.watch, Job.World.awaitBy]
  cases hplan : schedule.plan with
  | error d =>
    exact ⟨[], .nil, ht, List.forall_mem_nil _, Nat.zero_le _, fun _ h => by cases h⟩
  | ok plan =>
    obtain ⟨sights, hshows, -, hawaits⟩ := (c.world job).await_awaits plan { session := s }
    have hsafe := hawaits.safe Job.Time.not_zero_lt_zero
    obtain ⟨turns, htalks, htoken, hrequests, hanswers⟩ :=
      (c.watcher job).exists_turns hshows (t := t) ht
    have hlength := Job.Schedule.length_answersOf_le hplan hawaits
    rw [hanswers, List.length_map] at hlength
    refine ⟨turns, heard_of_safe htalks hanswers hsafe, htoken, hrequests, hlength,
      fun state hstate => ?_⟩
    obtain ⟨⟨-, o, hlast, hstatus, -⟩, -⟩ := hsafe.held state (by rw [hstate]; rfl)
    obtain ⟨o', hlast', hterminal⟩ := hsafe.returns_iff.1 ⟨state, hstate⟩
    obtain rfl : o = o' := by
      rw [hlast] at hlast'
      exact Except.ok.inj (Option.some.inj hlast')
    rw [hanswers, List.getLast?_map, Option.map_eq_some_iff] at hlast
    obtain ⟨last, hmem, hobserved⟩ := hlast
    exact ⟨last, o, hmem, hobserved, hstatus.symm, hterminal⟩

end

/-! ## Calls -/

namespace Call

variable {c : Client}

/-- The method and the path of the resource that a call asks for. -/
def resource : Call c → Method × String
  | login => (.post, "auth/login")
  | apiVersion => (.get, "version")
  | submit _ => (.post, "analyses")
  | statusRecord job | queryStatus job | @await _ job _ _ => (.get, Client.jobPath job)
  | issues job | findings job => (.get, Client.jobPath job ++ "/issues")
  | analyses => (.get, "analyses")

/-- How often a call may ask for its resource, apart from logins. -/
def limit : Call c → Nat
  | login => 0
  | await _ schedule => (schedule.maxAttempts + 1).toNat
  | _ => 1

/-- The failure of the service that a call raises. -/
def failure? : Call c → Session → Option (Fault Error)
  | login, s => c.login.failure? s
  | apiVersion, s => c.apiVersion.failure? s
  | submit body, s => (c.submit body).failure? s
  | statusRecord job, s => (c.statusRecord job).failure? s
  | queryStatus job, s => (c.queryStatus job).failure? s
  | await w schedule, s => queryFailure (w.world.awaitBy schedule (w.start s)).outcome
  | issues job, s => (c.issues job).failure? s
  | findings job, s =>
    (c.issues job >>= fun payload => Exchange.lift (Finding.ofReports payload).1).failure? s
  | analyses, s => c.analyses.failure? s

end Call

/-- What a call sends, and what it does with the replies. -/
structure Stops {c : Client} (call : Call c) (s : Session) (turns : List Turn) : Prop where
  /-- Only the last reply may be unusable, and it is what the call raises. -/
  heard : Heard s turns (call.failure? s) (call.run s)
  /-- There is one login at most, and but for a call that is one it comes first and only where a
  token is needed and there is none. All other requests are for the resource of the call. -/
  split : ∃ logins others, turns = logins ++ others ∧
    (logins = [] ∨ (call = .login ∨ call.needsToken = true ∧ s.token = none) ∧
      ∃ turn, logins = [turn] ∧ c.IsLogin turn.request) ∧
    others.length ≤ call.limit ∧
    ∀ turn ∈ others, turn.request.method = call.resource.1 ∧
      turn.request.url = c.resource call.resource.2

section
variable {c : Client} {s : Session}

theorem Sends.stops {call : Call c} {turns : List Turn}
    (h : Sends c call.resource.1 call.resource.2 call.limit s turns (call.failure? s) (call.run s))
    (hcall : call.needsToken = true) : Stops call s turns := by
  obtain ⟨logins, others, hturns, hlogins, hothers⟩ := h.split
  exact ⟨h.heard, logins, others, hturns, hlogins.imp_right fun h => ⟨.inr ⟨hcall, h.1⟩, h.2⟩,
    hothers⟩

end

end ContractAudit.Service
