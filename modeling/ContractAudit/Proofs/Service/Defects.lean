/-
  Calls of a client that end by a defect.

  * A client provides for replies that are not usable, for logins without a token and for
    submissions without a job.  It does not provide for two kinds of answers: one to a login with
    tokens that are no object (`MisplacesTokens`), and a status record with a status that is no text
    (`NamesNoStatus`).
  * `Trips c unreadable turn d`: a turn in which the client comes upon such an answer, or upon a
    reply from which nothing can be had (`Reply.BreaksBy`).  `Explained` says of turns that the
    failure by which they end is a defect iff one of them trips by it.
  * `Call.EndsBy`: a call ends by a defect, and `Blames`: which of its turns are to blame.
  * `Call.exists_blames`: no call ends by a defect without such a turn, but for a watch with times
    that are out of range; and `unreadable_answers_end_calls`: such turns do end it.
-/
import ContractAudit.Proofs.Answers
import ContractAudit.Proofs.Json.RoundTrip
import ContractAudit.Proofs.Service.Stops

namespace ContractAudit

/-! ## Times out of range -/

/-- Whether a failure is one of arithmetic. -/
def Defect.isArithmetic : Defect → Bool
  | overflow | divisionByZero | outOfDomain => true
  | _ => false

namespace Job

theorem Time.float_failsBy (t : Time) : FailsBy t.float (·.isArithmetic = true) := by
  cases t with
  | real x => exact .ok
  | whole n =>
    rw [Time.float]
    split
    · exact .error rfl
    · exact .ok

theorem Time.minus_failsBy (a b : Time) : FailsBy (a.minus b) (·.isArithmetic = true) := by
  have hreal : FailsBy (do pure (real ((← a.float) - (← b.float))) : Except Defect Time)
      (·.isArithmetic = true) :=
    a.float_failsBy.bind fun x => b.float_failsBy.bind fun y => .ok
  cases a with
  | real x => exact hreal
  | whole m =>
    cases b with
    | real y => exact hreal
    | whole n => exact .ok

theorem Time.dividedBy_failsBy (a b : Time) : FailsBy (a.dividedBy b) (·.isArithmetic = true) := by
  unfold Time.dividedBy
  split
  · split
    · exact .error rfl
    · exact .ok
  · refine FailsBy.bind (float_failsBy _) fun y => ?_
    dsimp only
    split
    · exact .error rfl
    · exact FailsBy.bind (float_failsBy _) fun x => .ok

theorem squared_failsBy (x : Float) : FailsBy (squared x) (·.isArithmetic = true) := by
  simp only [squared]
  split
  · exact .error rfl
  · exact .ok

theorem Time.risen_failsBy (span divisor count : Time) :
    FailsBy (Reckoning.risen span divisor count) (·.isArithmetic = true) := by
  refine FailsBy.bind (span.dividedBy_failsBy divisor) fun ratio => ?_
  dsimp only
  split
  · exact .error rfl
  · exact count.float_failsBy.bind fun x => (squared_failsBy _).map _

/-- **A schedule only fails by arithmetic.** -/
theorem Schedule.interval_failsBy (schedule : Schedule) (r : Nat) :
    FailsBy (schedule.interval r) (·.isArithmetic = true) := by
  rw [BackOff.interval, BackOff.intervalAt]
  split
  · exact .ok
  · have hrisen (divisor : Time) := (Time.minus_failsBy schedule.timeout schedule.initialDelay).bind
      fun span => Time.risen_failsBy (nonNegative span) divisor (Reckoning.whole r)
    rw [BackOff.ramp]
    cases schedule.divisor with
    | some divisor => exact hrisen divisor
    | none => exact ((Time.float_failsBy _).map _).bind hrisen

end Job

namespace Service

/-! ## Answers that cannot be read -/

/-- The reply is an answer with a status below 400 and this value in its body. -/
def Reply.Answers (reply : Reply) (v : Json) : Prop :=
  ∃ status body, reply = .answer status body ∧ status < 400 ∧ Json.parse? body = some v

/-- In the answer to a login there are tokens that hold something, but are no object. -/
def MisplacesTokens (answer : Json) : Prop :=
  ∃ members tokens, answer = .obj members ∧ Keyed.lookup? "jwtTokens" members = some tokens ∧
    tokens.isSet = true ∧ tokens.isObject = false

/-- The word for a status is neither null nor a text. What becomes of it depends on whether it holds
something. -/
def IsNoStatus (word : Json) (d : Defect) : Prop :=
  word ≠ .null ∧ (∀ text, word ≠ .str text) ∧
    d = if word.isSet then .noMember else .invalidRecord

/-- In a status record there is a word for the status that stands for none. -/
def NamesNoStatus (answer : Json) (d : Defect) : Prop :=
  ∃ members word, answer = .obj members ∧ Keyed.lookup? "status" members = some word ∧
    IsNoStatus word d

section
variable {answer v : Json} {key : String} {d : Defect}

theorem get_orElse_eq_error_iff :
    (v.orElse (.obj [])).get key = .error d ↔
      d = .noMember ∧ v.isSet = true ∧ v.isObject = false := by
  rw [Json.orElse]
  cases hset : v.isSet with
  | false => simp [Json.get, Json.get?, Json.asMembers, Except.map]
  | true =>
    cases v <;> simp [Json.get, Json.get?, Json.asMembers, Except.map, Json.isObject, eq_comm]

/-- **A login only fails to read tokens that are no object.** -/
theorem tokenIn_eq_defect_iff :
    Client.tokenIn answer = .error (.defect d) ↔ d = .noMember ∧ MisplacesTokens answer := by
  have htokens : Client.tokenIn answer = .error (.defect d) ↔
      ((memberOrNull answer "jwtTokens").orElse (.obj [])).get "access" = .error d := by
    rw [Client.tokenIn]
    split
    · next h => simp [h]
    · next h => rw [h]; split <;> simp
  rw [htokens, get_orElse_eq_error_iff]
  exact and_congr_right fun _ => Client.memberOrNull_iff
    (P := fun tokens => tokens.isSet = true ∧ tokens.isObject = false) (by simp [Json.isSet])

/-- **A query only fails to read a status that is neither null nor a text.** -/
theorem observation_eq_error_iff :
    observation answer = .error d ↔ NamesNoStatus answer d := by
  have hnull : ¬ IsNoStatus .null d := fun h => h.1 rfl
  rw [NamesNoStatus, ← Client.memberOrNull_iff (P := (IsNoStatus · d)) hnull, IsNoStatus,
    observation, eq_comm (a := d)]
  generalize memberOrNull answer "status" = word
  rw [jobStatus]
  -- a status that holds nothing stands for pending, but is refused as a field of the state
  cases hset : word.isSet with
  | true =>
    cases word with
    | null => cases hset
    | str text => simp [Json.asText, Json.Field.nullable, Json.Field.string, Except.map]
    | _ => simp [Json.asText, Except.map]
  | false => cases word <;> simp [Json.Field.nullable, Json.Field.string, Except.map]

end

/-! ## Turns that trip -/

/-- By which turns a client trips: nothing can be had from the reply, or there is an answer that
cannot be read, where `unreadable` says which answers, but for those to logins, are not. -/
inductive Trips (c : Client) (unreadable : Json → Defect → Prop) (turn : Turn) : Defect → Prop
  | broken {d} : turn.reply.BreaksBy d → Trips c unreadable turn d
  | login {answer} : c.IsLogin turn.request → turn.reply.Answers answer → MisplacesTokens answer →
      Trips c unreadable turn .noMember
  | other {answer d} : ¬ c.IsLogin turn.request → turn.reply.Answers answer →
      unreadable answer d → Trips c unreadable turn d

section
variable {c : Client} {unreadable : Json → Defect → Prop} {turn : Turn} {d : Defect} {β : Type}
  {read : Json → Except (Fault Error) β}

/-- A reply has a defect iff nothing can be had from it, or what is read from the answer has. -/
theorem Request.result_bind_eq_defect_iff {r : Request} {reply : Reply} :
    (r.result reply >>= read) = .error (.defect d) ↔
      reply.BreaksBy d ∨ ∃ answer, reply.Answers answer ∧ read answer = .error (.defect d) := by
  rw [← result_eq_defect_iff (r := r)]
  cases hresult : r.result reply with
  | ok answer =>
    obtain ⟨status, body, rfl, hstatus, hparse⟩ := result_eq_ok.1 hresult
    have hanswers (v : Json) : (Reply.answer status body).Answers v ↔ v = answer := by
      simp [Reply.Answers, hstatus, hparse, eq_comm]
    simp [hanswers]
  | error e =>
    have hanswers (v : Json) : ¬ reply.Answers v := fun h => by
      rw [result_eq_ok.2 h] at hresult
      cases hresult
    simp [hanswers]

theorem trips_iff_of_isLogin (h : c.IsLogin turn.request) :
    Trips c unreadable turn d ↔
      (turn.request.result turn.reply >>= Client.tokenIn) = .error (.defect d) := by
  simp only [Request.result_bind_eq_defect_iff, tokenIn_eq_defect_iff]
  constructor
  · rintro (hbroken | ⟨-, hanswers, htokens⟩ | ⟨hnot, -, -⟩)
    · exact .inl hbroken
    · exact .inr ⟨_, hanswers, rfl, htokens⟩
    · exact absurd h hnot
  · rintro (hbroken | ⟨answer, hanswers, rfl, htokens⟩)
    · exact .broken hbroken
    · exact .login h hanswers htokens

theorem trips_iff_of_not_isLogin (h : ¬ c.IsLogin turn.request)
    (hread : ∀ answer d, read answer = .error (.defect d) ↔ unreadable answer d) :
    Trips c unreadable turn d ↔
      (turn.request.result turn.reply >>= read) = .error (.defect d) := by
  simp only [Request.result_bind_eq_defect_iff, hread]
  constructor
  · rintro (hbroken | ⟨hlogin, -, -⟩ | ⟨-, hanswers, hunreadable⟩)
    · exact .inl hbroken
    · exact absurd hlogin h
    · exact .inr ⟨_, hanswers, hunreadable⟩
  · rintro (hbroken | ⟨answer, hanswers, hunreadable⟩)
    · exact .broken hbroken
    · exact .other h hanswers hunreadable

end

/-! ## Turns that end by a defect -/

/-- Turns and the failure by which they end, which is a defect iff one of the turns trips by it. -/
structure Explained (trips : Turn → Defect → Prop) (s : Session) (turns : List Turn)
    (failure : Option (Fault Error)) (s' : Session) : Prop where
  talks : Talks s turns s'
  defect_iff : ∀ d, failure = some (.defect d) ↔ ∃ turn ∈ turns, trips turn d

theorem failureOf_eq_some_iff {ε α : Type} {x : Except ε α} {e : ε} :
    failureOf x = some e ↔ x = .error e := by
  cases x <;> simp [failureOf]

namespace Explained

variable {trips : Turn → Defect → Prop} {s s₁ s' : Session} {turns more : List Turn}
  {failure : Option (Fault Error)}

theorem nil (h : ∀ d, failure ≠ some (.defect d)) : Explained trips s [] failure s where
  talks := .nil
  defect_iff d := by simp [h d]

theorem singleton {r : Request} {after : Option Json}
    (h : ∀ d, trips (s.turn r after) d ↔ failure = some (.defect d)) :
    Explained trips s [s.turn r after] failure (s.next r after) where
  talks := .cons .nil
  defect_iff d := by simp [h d]

theorem append (h : Explained trips s turns none s₁) (h' : Explained trips s₁ more failure s') :
    Explained trips s (turns ++ more) failure s' where
  talks := h.talks.append h'.talks
  defect_iff d := by
    have hnone : ∀ turn ∈ turns, ¬ trips turn d := fun turn hturn htrips => by
      cases (h.defect_iff d).2 ⟨turn, hturn, htrips⟩
    rw [h'.defect_iff]
    constructor
    · rintro ⟨turn, hturn, htrips⟩
      exact ⟨turn, List.mem_append_right _ hturn, htrips⟩
    · rintro ⟨turn, hturn, htrips⟩
      rcases List.mem_append.1 hturn with hturn | hturn
      · exact absurd htrips (hnone turn hturn)
      · exact ⟨turn, hturn, htrips⟩

end Explained

/-! ## Requests with a token -/

section
variable {c : Client} {s : Session} {unreadable : Json → Defect → Prop}

/-- With an account, a login is one turn, from whose answer the token is read. -/
theorem exists_runIn_login (h : c.hasAccount = true) :
    ∃ after, c.login.runIn s =
      (c.loginRequest.result (s.hear c.loginRequest).1 >>= Client.tokenIn,
        s.next c.loginRequest after) := by
  rw [c.runIn_login_of_account s h]
  cases c.loginRequest.result (s.hear c.loginRequest).1 with
  | error e => exact ⟨_, rfl⟩
  | ok answer =>
    simp only [ok_bind]
    cases Client.tokenIn answer with
    | error e => exact ⟨_, rfl⟩
    | ok t => exact ⟨_, rfl⟩

theorem exists_explained_login (c : Client) (s : Session) :
    ∃ turns, Explained (Trips c unreadable) s turns (c.login.failure? s) (c.login.runIn s).2 := by
  cases haccount : c.hasAccount with
  | false =>
    rw [Exchange.failure?, c.runIn_login_of_noAccount s haccount]
    exact ⟨[], .nil fun d h => by cases h⟩
  | true =>
    obtain ⟨after, hlogin⟩ := exists_runIn_login (s := s) haccount
    rw [Exchange.failure?, hlogin]
    refine ⟨_, .singleton fun d => ?_⟩
    rw [failureOf_eq_some_iff]
    exact trips_iff_of_isLogin (isLogin_loginRequest c)

theorem exists_explained_token (c : Client) (s : Session) :
    ∃ turns, Explained (Trips c unreadable) s turns (c.token.failure? s) (c.token.runIn s).2 := by
  rw [Exchange.failure?, runIn_token]
  cases s.token with
  | some t => exact ⟨[], .nil fun d h => by cases h⟩
  | none => exact exists_explained_login c s

/-- **A request with a token ends by a defect iff one of its turns trips**: the request, or a login
before it. -/
theorem exists_explained_ask {method : Method} {path : String} {body : Json} {β : Type}
    {read : Json → Except (Fault Error) β}
    (hrequest : ∀ token, ¬ c.IsLogin { c.openRequest method path body with token })
    (hread : ∀ answer d, read answer = .error (.defect d) ↔ unreadable answer d) (s : Session) :
    ∃ turns, Explained (Trips c unreadable) s turns
      (failureOf (((c.ask method path body).runIn s).1 >>= read))
      ((c.ask method path body).runIn s).2 := by
  obtain ⟨logins, hlogins⟩ : ∃ logins, Explained (Trips c unreadable) s logins
      (failureOf (c.token.runIn s).1) (c.token.runIn s).2 := exists_explained_token c s
  rw [runIn_ask]
  rcases htoken : c.token.runIn s with ⟨e | t, s₁⟩ <;> rw [htoken] at hlogins
  · exact ⟨logins, hlogins⟩
  · refine ⟨logins ++ [s₁.turn (c.tokenRequest method path body t) s₁.token],
      hlogins.append (.singleton fun d => ?_)⟩
    rw [failureOf_eq_some_iff]
    exact trips_iff_of_not_isLogin (hrequest _) hread

theorem Exchange.runIn_bind_of_reads {α β : Type} {x : Exchange α} {f : α → Exchange β}
    {read : α → Except (Fault Error) β} (hf : ∀ a s, (f a).runIn s = (read a, s)) (s : Session) :
    (x >>= f).runIn s = ((x.runIn s).1 >>= read, (x.runIn s).2) := by
  rw [runIn_bind]
  rcases x.runIn s with ⟨e | a, s₁⟩
  · rfl
  · exact hf a s₁

theorem exists_explained_queryStatus (c : Client) (job : Json) (s : Session) :
    ∃ turns, Explained (Trips c NamesNoStatus) s turns ((c.queryStatus job).failure? s)
      ((c.queryStatus job).runIn s).2 := by
  rw [Exchange.failure?, Client.queryStatus,
    Exchange.runIn_bind_of_reads fun answer s => Exchange.runIn_lift (observation answer) s]
  refine exists_explained_ask (fun _ => not_isLogin_get) (fun answer d => ?_) s
  rw [← observation_eq_error_iff]
  cases observation answer <;> simp [Except.mapError]

end

/-! ## Watches -/

section
variable {c : Client} {job : Json}

/-- **The queries of a watch end by a defect iff one of their turns trips.** -/
theorem Watcher.exists_explained (w : Watcher c job) {st st' : w.State}
    {sights : List (Job.Sight (Fault Error) Job.Time)} (h : w.world.Shows st sights st')
    {failure : Option (Fault Error)} (hstops : ∀ x ∈ sights.dropLast, x.isStop = false)
    (hraised : ∀ e, failure = some e ↔ ∃ now, .asked now (.error e) ∈ sights) :
    ∃ turns, Explained (Trips c NamesNoStatus) (w.session st) turns failure (w.session st') := by
  induction h with
  | nil => exact ⟨[], .nil fun d h => by simpa using (hraised _).1 h⟩
  | @read st now st₁ sights st' hclock _ ih =>
    have hsession := w.clock st
    rw [hclock] at hsession
    exact hsession ▸ ih (Job.forall_mem_dropLast_of_cons hstops) (by simpa using hraised)
  | waited hwait _ _ ih =>
    exact (hwait ▸ w.session_wait _ _) ▸ ih (Job.forall_mem_dropLast_of_cons hstops)
      (by simpa using hraised)
  | @asked st now st₁ answer st₂ sights st' hclock hquery hshows ih =>
    have hsession := w.clock st
    rw [hclock] at hsession
    have hrun := w.query st₁
    rw [hquery] at hrun
    obtain ⟨turns, hturns⟩ := exists_explained_queryStatus c job (w.session st₁)
    rw [Exchange.failure?, ← hrun, hsession] at hturns
    cases answer with
    | ok o =>
      obtain ⟨more, hmore⟩ := ih (Job.forall_mem_dropLast_of_cons hstops) (by simpa using hraised)
      exact ⟨turns ++ more, hturns.append hmore⟩
    | error e =>
      -- the run stops at a query that fails
      obtain rfl : failure = some e := (hraised e).2 ⟨now, List.mem_cons_self⟩
      cases sights with
      | nil =>
        cases hshows
        exact ⟨turns, hturns⟩
      | cons => cases hstops (.asked now (.error e)) List.mem_cons_self

theorem queryFailure_eq_some_iff
    {outcome : Except (Job.Failure (Fault Error) Job.Time) (Job.State Job.Time)}
    {e : Fault Error} : queryFailure outcome = some e ↔ outcome = .error (.query e) := by
  rcases outcome with (_ | _ | _ | _ | _) | _ <;> simp [queryFailure]

end

/-! ## Calls -/

namespace Call

variable {c : Client}

/-- The call ends by a defect: it neither returns nor raises an error of the client, or one of those
by which a watch ends. -/
def EndsBy : Call c → Session → Defect → Prop
  | await w schedule, s, d =>
    (w.world.awaitBy schedule (w.start s)).outcome = .error (.query (.defect d)) ∨
      (w.world.awaitBy schedule (w.start s)).outcome = .error (.defect d)
  | call, s, d => call.failure? s = some (.defect d)

/-- Which answers of its resource a call cannot read. Most calls take any answer. -/
def Unreadable : Call c → Json → Defect → Prop
  | queryStatus _, answer, d | await _ _, answer, d => NamesNoStatus answer d
  | findings _, payload, d => (Finding.ofReports payload).1 = .error d
  | _, _, _ => False

/-- The arguments of a call are such as it expects: a body is an object, and times and numbers of
attempts are not negative. -/
def IsProper : Call c → Prop
  | submit body => body.isObject = true
  | await _ schedule => 0 ≤ schedule.initialDelay ∧ 0 ≤ schedule.timeout ∧ 0 ≤ schedule.maxAttempts
  | _ => True

/-- A watch has a time that is out of range. -/
def OutOfRange : Call c → Defect → Prop
  | await _ schedule, d => d.isArithmetic = true ∧ (schedule.timeout.float = .error d ∨
      ∃ r < schedule.maxAttempts.toNat, schedule.interval r = .error d)
  | _, _ => False

end Call

/-- The turns of a call, and which of them are to blame if it ends by a defect. -/
structure Blames {c : Client} (call : Call c) (s : Session) (turns : List Turn) : Prop where
  talks : Talks s turns (call.run s)
  /-- A turn that trips ends the call by the same defect. -/
  ends : ∀ turn ∈ turns, ∀ d, Trips c call.Unreadable turn d → call.EndsBy s d
  /-- There is no other defect, but where the times of a watch are out of range. -/
  tripped : ∀ d, call.EndsBy s d →
    (∃ turn ∈ turns, Trips c call.Unreadable turn d) ∨ call.OutOfRange d

section
variable {c : Client} {s : Session}

/-- A call other than a watch ends by the defect in its failure. -/
theorem blames_of_explained {call : Call c}
    (h : ∃ turns, Explained (Trips c call.Unreadable) s turns (call.failure? s) (call.run s))
    (hcall : ∀ d, call.EndsBy s d ↔ call.failure? s = some (.defect d)) :
    ∃ turns, Blames call s turns := by
  obtain ⟨turns, htalks, hiff⟩ := h
  exact ⟨turns, htalks, fun turn hturn d htrips => (hcall d).2 ((hiff d).2 ⟨turn, hturn, htrips⟩),
    fun d hends => .inl ((hiff d).1 ((hcall d).1 hends))⟩

theorem exists_blames_await {job : Json} {w : Watcher c job} {schedule : Job.Schedule}
    (h : (Call.await w schedule).IsProper) : ∃ turns, Blames (.await w schedule) s turns := by
  obtain ⟨hd, ht, hn⟩ := h
  obtain ⟨sights, hshows, -, hsafe, hdefect⟩ := w.world.exists_safe (w.start s) hd ht hn
  obtain ⟨turns, htalks, hiff⟩ := w.exists_explained hshows hsafe.stops fun e =>
    queryFailure_eq_some_iff.trans (hsafe.raised e)
  rw [w.session_start] at htalks
  simp only [queryFailure_eq_some_iff] at hiff
  refine ⟨turns, htalks, fun turn hturn d htrips => .inl ((hiff d).2 ⟨turn, hturn, htrips⟩), ?_⟩
  rintro d (hquery | hschedule)
  · exact .inl ((hiff d).1 hquery)
  · have hreason := hdefect d hschedule
    refine .inr ⟨?_, hreason⟩
    rcases hreason with htimeout | ⟨r, -, hinterval⟩
    · exact schedule.timeout.float_failsBy d htimeout
    · exact Job.Schedule.interval_failsBy schedule r d hinterval

theorem exists_explained_plain {method : Method} {path : String} {body : Json}
    (hrequest : ∀ token, ¬ c.IsLogin { c.openRequest method path body with token }) :
    ∃ turns, Explained (Trips c fun _ _ => False) s turns
      ((c.ask method path body).failure? s) ((c.ask method path body).runIn s).2 := by
  have hread (answer : Json) (d : Defect) :
      (pure answer : Except (Fault Error) Json) = .error (.defect d) ↔ False := by
    simp [pure, Except.pure]
  have h := exists_explained_ask hrequest hread s
  rwa [bind_pure] at h

theorem exists_explained_apiVersion :
    ∃ turns, Explained (Trips c fun _ _ => False) s turns (c.apiVersion.failure? s)
      (c.apiVersion.runIn s).2 := by
  have hlogin : ¬ c.IsLogin (c.openRequest .get "version" .null) := not_isLogin_get
  rw [Exchange.failure?, Client.apiVersion, Exchange.runIn_send]
  refine ⟨_, .singleton fun d => ?_⟩
  rw [failureOf_eq_some_iff, ← bind_pure (Request.result _ _)]
  exact trips_iff_of_not_isLogin hlogin fun _ _ => by simp [pure, Except.pure]

theorem exists_explained_submit (members : Json.Members) :
    ∃ turns, Explained (Trips c fun _ _ => False) s turns
      ((c.submit (.obj members)).failure? s) ((c.submit (.obj members)).runIn s).2 := by
  rw [Exchange.failure?, runIn_submit rfl]
  refine exists_explained_ask (fun _ => not_isLogin_submit) (fun answer d => ?_) s
  rw [Client.jobIn]
  split <;> simp

theorem exists_explained_findings (job : Json) :
    ∃ turns, Explained (Trips c (Call.findings job : Call c).Unreadable) s turns
      ((Call.findings job : Call c).failure? s) ((Call.findings job : Call c).run s) := by
  rw [Call.failure?, Exchange.failure?, Exchange.runIn_bind_of_reads fun payload s =>
    Exchange.runIn_lift (Finding.ofReports payload).1 s]
  refine exists_explained_ask (fun _ => not_isLogin_get) (fun payload d => ?_) s
  rw [Call.Unreadable]
  cases (Finding.ofReports payload).1 <;> simp [Except.mapError]

end

/-! ## Answers that end a call -/

section
variable {c : Client} {s : Session} {job t answer : Json} {d : Defect}

theorem login_endsBy (haccount : c.hasAccount = true)
    (hanswers : (s.hear c.loginRequest).1.Answers answer) (htokens : MisplacesTokens answer) :
    (Call.login : Call c).EndsBy s .noMember := by
  obtain ⟨after, hlogin⟩ := exists_runIn_login (s := s) haccount
  rw [Call.EndsBy, Call.failure?, Exchange.failure?, hlogin, failureOf_eq_some_iff,
    Request.result_bind_eq_defect_iff]
  · exact .inr ⟨answer, hanswers, tokenIn_eq_defect_iff.2 ⟨rfl, htokens⟩⟩
  · rintro _ _ _ ⟨⟩

theorem queryStatus_endsBy (ht : s.token = some t)
    (hanswers : (s.hear (c.statusRequest job t)).1.Answers answer)
    (hstatus : NamesNoStatus answer d) : (Call.queryStatus job : Call c).EndsBy s d := by
  rw [Call.EndsBy, Call.failure?, Exchange.failure?, runIn_queryStatus (runIn_token_of_some ht),
    failureOf_eq_some_iff, Turn.observed, Request.result_bind_eq_defect_iff]
  · refine .inr ⟨answer, hanswers, ?_⟩
    rw [observation_eq_error_iff.2 hstatus]
    rfl
  · rintro _ _ _ ⟨⟩

/-- A watch ends where its first query does. -/
theorem await_endsBy {w : Watcher c job} {schedule : Job.Schedule}
    (h : (Call.await w schedule).IsProper) (ht : s.token = some t)
    (hanswers : (s.hear (c.statusRequest job t)).1.Answers answer)
    (hstatus : NamesNoStatus answer d) : (Call.await w schedule).EndsBy s d := by
  obtain ⟨hd, htimeout, hn⟩ := h
  obtain ⟨plan, hplan⟩ := Job.Schedule.exists_plan hd htimeout hn
  rcases hclock : w.world.clock (w.start s) with ⟨started, st⟩
  have hsession : w.session st = s := by
    have := w.clock (w.start s)
    rwa [hclock, w.session_start] at this
  have hquery : (w.world.query st).1 = .error (.defect d) := by
    have hends : (Call.queryStatus job : Call c).EndsBy s d :=
      queryStatus_endsBy ht hanswers hstatus
    rw [← hsession, Call.EndsBy, Call.failure?, Exchange.failure?, ← w.query,
      failureOf_eq_some_iff] at hends
    · exact hends
    · rintro _ _ _ ⟨⟩
  rcases hanswer : w.world.query st with ⟨first, st'⟩
  obtain rfl : first = .error (.defect d) := by rwa [hanswer] at hquery
  refine .inl ?_
  rw [Job.World.awaitBy, hplan]
  simp only [Job.World.await, hclock, Job.World.observe_of_error hanswer]

end

theorem namesNoStatus_int (n : Int) :
    NamesNoStatus (.obj [("status", .int n)]) (if n = 0 then .invalidRecord else .noMember) := by
  refine ⟨_, .int n, rfl, rfl, by simp, by simp, ?_⟩
  by_cases hn : n = 0 <;> simp [Json.isSet, hn]

/-! ## Replies with a value -/

/-- A reply with a value in its body. -/
def replyWith (v : Json) : Reply :=
  .answer 200 (Json.write Json.reportLayout v)

theorem answers_replyWith {v : Json} (h : v.isExact = true) (hlevels : v.height ≤ Json.maxLevels) :
    (replyWith v).Answers v :=
  ⟨200, _, rfl, by decide,
    congrArg Except.toOption (Json.parse_write Json.reportLayout_separates h hlevels)⟩

section
variable {c : Client} {s s₁ : Session} {t v : Json} {replies : List Reply}

theorem hear_replyWith (h : s.replies = replyWith v :: replies) (r : Request) :
    s.hear r = (replyWith v, { s with replies, sent := s.sent ++ [r] }) := by
  rw [Session.hear, Session.reply, h]

/-- A login that is answered by the next reply. -/
theorem exists_granted (haccount : c.hasAccount = true) (htoken : s.token = none)
    (hreplies : s.replies = replyWith v :: replies) (h : v.isExact = true)
    (hlevels : v.height ≤ Json.maxLevels) (ht : Client.tokenIn v = .ok t) :
    ∃ s', c.token.runIn s = (.ok t, s') ∧ s'.token = some t ∧ s'.replies = replies ∧
      s'.sent = s.sent ++ [c.loginRequest] := by
  refine ⟨{ token := some t, replies, sent := s.sent ++ [c.loginRequest] }, ?_, rfl, rfl, rfl⟩
  rw [runIn_token, htoken]
  simp only [c.runIn_login_of_account s haccount, Session.next, hear_replyWith hreplies,
    Request.result_eq_ok.2 (answers_replyWith h hlevels), ht]

theorem exists_answered (hin : c.token.runIn s = (.ok t, s₁)) (htoken : s₁.token = some t)
    (hreplies : s₁.replies = replyWith v :: replies) (h : v.isExact = true)
    (hlevels : v.height ≤ Json.maxLevels) (method : Method) (path : String) (body : Json) :
    ∃ s', (c.ask method path body).runIn s = (.ok v, s') ∧ s'.token = some t ∧
      s'.replies = replies ∧ s'.sent = s₁.sent ++ [c.tokenRequest method path body t] := by
  refine ⟨{ s₁ with replies, sent := s₁.sent ++ [c.tokenRequest method path body t] }, ?_, htoken,
    rfl, rfl⟩
  rw [runIn_ask_of_token hin, Session.next_self, hear_replyWith hreplies,
    Request.result_eq_ok.2 (answers_replyWith h hlevels)]

end

/-! ## All calls -/

/-- **A call only ends by a defect if one of its turns trips by it**, in every session and whatever
the replies are: the transport broke down, a body nests too deep, the answer to a login has tokens
that are no object, or a status that the call asks for is no text. All else it returns, or raises as
an error of its own, unless the times of a watch are out of range. -/
theorem Call.exists_blames {c : Client} (call : Call c) (h : call.IsProper) (s : Session) :
    ∃ turns, Blames call s turns ∧ (call.run s).sent = s.sent ++ turns.map Turn.request := by
  have hget {path : String} {body : Json} (token : Option Json) :
      ¬ c.IsLogin { c.openRequest .get path body with token } := not_isLogin_get
  have hblames : ∃ turns, Blames call s turns := by
    cases call with
    | await w schedule => exact exists_blames_await h
    | login => exact blames_of_explained (exists_explained_login c s) fun _ => .rfl
    | apiVersion => exact blames_of_explained exists_explained_apiVersion fun _ => .rfl
    | statusRecord job => exact blames_of_explained (exists_explained_plain hget) fun _ => .rfl
    | queryStatus job =>
      exact blames_of_explained (exists_explained_queryStatus c job s) fun _ => .rfl
    | issues job => exact blames_of_explained (exists_explained_plain hget) fun _ => .rfl
    | analyses => exact blames_of_explained (exists_explained_plain hget) fun _ => .rfl
    | findings job => exact blames_of_explained (exists_explained_findings job) fun _ => .rfl
    | submit body =>
      cases body with
      | obj members => exact blames_of_explained (exists_explained_submit members) fun _ => .rfl
      | _ => cases h
  obtain ⟨turns, hblames⟩ := hblames
  exact ⟨turns, hblames, hblames.talks.sent_eq⟩

/-- A client with a name and a password. -/
def namedClient : Client :=
  { url := "https://api.example.com/v1", username := .str "name", password := .str "word",
    timeout := .int 30 }

/-- A watch with a token in use. The answer to its query has a number for a status, and the query is
the turn to be blamed. -/
theorem Call.exists_blames_watch :
    let schedule : Job.Schedule := { initialDelay := .whole 1, timeout := .whole 10 }
    let call : Call namedClient := .await (namedClient.watcher (.str "job")) schedule
    let s : Session :=
      { token := some (.str "key"), replies := [replyWith (.obj [("status", .int 5)])] }
    (0 ≤ schedule.initialDelay ∧ 0 ≤ schedule.timeout ∧ 0 ≤ schedule.maxAttempts) ∧
      call.EndsBy s .noMember ∧
      ∃ turns, Blames call s turns ∧ (call.run s).sent = s.sent ++ turns.map Turn.request := by
  intro schedule call s
  have hproper : call.IsProper := ⟨by decide, by decide, by decide⟩
  have hends : call.EndsBy s .noMember :=
    await_endsBy hproper rfl (answers_replyWith (by decide) (by decide)) (namesNoStatus_int 5)
  exact ⟨hproper, hends, call.exists_blames hproper s⟩

/-- **Tokens that are no object, and a status that is no text, end calls by a defect.** -/
theorem unreadable_answers_end_calls :
    (Call.login : Call namedClient).EndsBy
        { token := none, replies := [replyWith (.obj [("jwtTokens", .str "abc")])] } .noMember ∧
      (Call.queryStatus (.str "job") : Call namedClient).EndsBy
        { token := some (.str "key"), replies := [replyWith (.obj [("status", .int 5)])] }
        .noMember ∧
      (Call.queryStatus (.str "job") : Call namedClient).EndsBy
        { token := some (.str "key"), replies := [replyWith (.obj [("status", .int 0)])] }
        .invalidRecord ∧
      (Call.await (namedClient.watcher (.str "job"))
          { initialDelay := .whole 1, timeout := .whole 10 }).EndsBy
        { token := some (.str "key"), replies := [replyWith (.obj [("status", .int 5)])] }
        .noMember := by
  have hfive : (replyWith (.obj [("status", .int 5)])).Answers (.obj [("status", .int 5)]) :=
    answers_replyWith (by decide) (by decide)
  refine ⟨?_, ?_, ?_, ?_⟩
  · exact login_endsBy rfl (answers_replyWith (by decide) (by decide)) ⟨_, _, rfl, rfl, rfl, rfl⟩
  · exact queryStatus_endsBy rfl hfive (namesNoStatus_int 5)
  · exact queryStatus_endsBy rfl (answers_replyWith (by decide) (by decide)) (namesNoStatus_int 0)
  · exact await_endsBy ⟨by decide, by decide, by decide⟩ rfl hfive (namesNoStatus_int 5)

end Service

end ContractAudit
