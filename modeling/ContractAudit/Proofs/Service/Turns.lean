/-
  Conversations with the analysis service, request by request.

  * A `Turn` is a request with what becomes of it and the tokens in use before and after it.
    `Talks s turns s'` says that the turns lead from one session to the other: each request is
    sent, in order, and takes the next reply.
  * `runIn_…`: what the operations of an exchange answer, and the session that they leave.
  * `Grants reply t`: the reply to a login grants the token `t`; `runIn_login`: a login takes the
    token that the reply grants, and fails if there is none.
-/
import ContractAudit.Service.Client

namespace ContractAudit.Service

/-! ## Turns -/

/-- A request, what becomes of it, and the token in use before and after it. -/
structure Turn where
  before : Option Json
  request : Request
  reply : Reply
  after : Option Json

namespace Session

/-- What becomes of a request, and the session after it was sent. -/
def hear (s : Session) (r : Request) : Reply × Session :=
  { s with sent := s.sent ++ [r] }.reply

/-- The turn in which a request is sent, after which the token `after` is in use. -/
def turn (s : Session) (r : Request) (after : Option Json) : Turn :=
  { before := s.token, request := r, reply := (s.hear r).1, after }

/-- The session after the turn. -/
def next (s : Session) (r : Request) (after : Option Json) : Session :=
  { (s.hear r).2 with token := after }

variable (s : Session) (r : Request) (after : Option Json)

@[simp] theorem hear_token : (s.hear r).2.token = s.token := by
  rw [hear, reply]
  split <;> rfl

@[simp] theorem hear_sent : (s.hear r).2.sent = s.sent ++ [r] := by
  rw [hear, reply]
  split <;> rfl

@[simp] theorem next_token : (s.next r after).token = after := rfl

@[simp] theorem next_sent : (s.next r after).sent = s.sent ++ [r] := s.hear_sent r

theorem next_self : s.next r s.token = (s.hear r).2 := by
  rw [next, ← s.hear_token r]

end Session

/-- The turns lead from one session to the other. -/
inductive Talks : Session → List Turn → Session → Prop
  | nil {s} : Talks s [] s
  | cons {s r after turns s'} : Talks (s.next r after) turns s' →
      Talks s (s.turn r after :: turns) s'

namespace Talks

variable {s s₁ s' : Session} {turns more : List Turn}

theorem append (h : Talks s turns s₁) (h' : Talks s₁ more s') : Talks s (turns ++ more) s' := by
  induction h with
  | nil => exact h'
  | cons _ ih => exact .cons (ih h')

theorem sent_eq (h : Talks s turns s') : s'.sent = s.sent ++ turns.map Turn.request := by
  induction h with
  | nil => simp
  | @cons s r after turns s' _ ih =>
    rw [ih, Session.next_sent, List.append_assoc]
    rfl

/-- A token that was in use at some time is in use in the end, or another one, if no turn drops
it. -/
theorem token_ne_none (h : Talks s turns s')
    (hkeeps : ∀ turn ∈ turns, turn.before ≠ none → turn.after ≠ none)
    (hset : s.token ≠ none ∨ ∃ turn ∈ turns, turn.after ≠ none) : s'.token ≠ none := by
  induction h with
  | nil => simpa using hset
  | @cons s r after turns s' _ ih =>
    obtain ⟨hown, hothers⟩ := List.forall_mem_cons.1 hkeeps
    refine ih hothers ?_
    rcases hset with hset | ⟨turn, hturn, hafter⟩
    · exact .inl (hown hset)
    · rcases List.mem_cons.1 hturn with rfl | hturn
      · exact .inl hafter
      · exact .inr ⟨turn, hturn, hafter⟩

theorem before_ne_none (h : Talks s turns s')
    (hkeeps : ∀ turn ∈ turns, turn.before ≠ none → turn.after ≠ none) (hset : s.token ≠ none) :
    ∀ turn ∈ turns, turn.before ≠ none := by
  induction h with
  | nil => exact List.forall_mem_nil _
  | @cons s r after turns s' _ ih =>
    obtain ⟨hown, hothers⟩ := List.forall_mem_cons.1 hkeeps
    exact List.forall_mem_cons.2 ⟨hset, ih hothers (hown hset)⟩

end Talks

/-! ## Exchanges -/

/-- What an exchange makes of the reply to a request. -/
def Request.result (r : Request) : Reply → Except (Fault Error) Json
  | .lost reason => .error (.error (.transport r.method r.url reason))
  | .broken d => .error (.defect d)
  | .answer status body =>
    if 400 ≤ status then .error (.error (.rejected r.method r.url status body))
    else
      match Json.parse body with
      | .ok v => .ok v
      | .error .malformed => .error (.error (.notJson r.method r.url status body))
      | .error .tooDeep => .error (.defect .endless)

/-- Nothing can be had from a reply: the transport broke down, or the body of the answer nests
deeper than can be followed. -/
inductive Reply.BreaksBy : Reply → Defect → Prop
  | broken {d} : BreaksBy (.broken d) d
  | tooDeep {status body} : status < 400 → Json.parse body = .error .tooDeep →
      BreaksBy (.answer status body) .endless

/-- **A request ends by a defect iff nothing can be had from the reply.** -/
theorem Request.result_eq_defect_iff {r : Request} {reply : Reply} {d : Defect} :
    r.result reply = .error (.defect d) ↔ reply.BreaksBy d := by
  constructor
  · intro h
    cases reply with
    | lost => cases h
    | broken => cases h; exact .broken
    | answer status body =>
      rw [result] at h
      split at h
      · cases h
      · next hstatus =>
        split at h
        · cases h
        · cases h
        · next hparse => cases h; exact .tooDeep (Int.lt_of_not_ge hstatus) hparse
  · rintro (_ | ⟨hstatus, hparse⟩)
    · rfl
    · rw [result, if_neg (Int.not_le.2 hstatus), hparse]

namespace Exchange

variable {α β : Type}

theorem runIn_lift (x : Except Defect α) (s : Session) :
    (lift x).runIn s = (x.mapError .defect, s) := by
  cases x <;> rfl

theorem runIn_bind (x : Exchange α) (f : α → Exchange β) (s : Session) :
    (x >>= f).runIn s =
      match x.runIn s with
      | (.ok a, s) => (f a).runIn s
      | (.error e, s) => (.error e, s) := by
  have : (x >>= f).runIn s = (ExceptT.bindCont f (x.runIn s).1).run (x.runIn s).2 := rfl
  rw [this]
  rcases x.runIn s with ⟨_ | _, _⟩ <;> rfl

/-- Sending a request is a turn that changes no token. -/
theorem runIn_send (r : Request) (s : Session) :
    (send r).runIn s = (r.result (s.hear r).1, s.next r s.token) := by
  rw [Session.next_self]
  obtain ⟨token, replies, sent⟩ := s
  cases replies with
  | nil => rfl
  | cons reply replies =>
    cases reply with
    | lost => rfl
    | broken => rfl
    | answer status body =>
      have hbody : (send r).runIn ⟨token, .answer status body :: replies, sent⟩ =
          (if 400 ≤ status then fail (.rejected r.method r.url status body)
            else match Json.parse body with
              | .ok v => pure v
              | .error .malformed => fail (.notJson r.method r.url status body)
              | .error .tooDeep => throw (.defect .endless) : Exchange Json).runIn
            ⟨token, replies, sent ++ [r]⟩ := rfl
      rw [hbody]
      simp only [Session.hear, Session.reply, Request.result]
      split
      · rfl
      · rcases Json.parse body with (_ | _) | _ <;> rfl

end Exchange

/-! ## Logins -/

/-- The answer to a login is an object with the token, which holds something, under `access` in the
object under `jwtTokens`. -/
def HoldsToken (answer t : Json) : Prop :=
  ∃ members tokens, answer = .obj members ∧
    Keyed.lookup? "jwtTokens" members = some (.obj tokens) ∧
    Keyed.lookup? "access" tokens = some t ∧ t.isSet = true

/-- The reply to a login grants the token: it has a status below 400, and the token is in its
body. -/
def Grants (reply : Reply) (t : Json) : Prop :=
  ∃ status body answer, reply = .answer status body ∧ status < 400 ∧
    Json.parse? body = some answer ∧ HoldsToken answer t

theorem Request.result_eq_ok {r : Request} {reply : Reply} {v : Json} :
    r.result reply = .ok v ↔
      ∃ status body, reply = .answer status body ∧ status < 400 ∧ Json.parse? body = some v := by
  cases reply with
  | lost => simp [result]
  | broken => simp [result]
  | answer status body =>
    rw [result]
    by_cases hstatus : 400 ≤ status
    · simp [hstatus, Int.not_lt.2 hstatus]
    · rw [if_neg hstatus]
      rcases hparse : Json.parse body with (_ | _) | v <;>
        simp [Json.parse?, hparse, Except.toOption, Int.lt_of_not_ge hstatus, and_assoc]

namespace Client

theorem memberOrNull_iff {v : Json} {key : String} {P : Json → Prop} (hnull : ¬ P .null) :
    P (memberOrNull v key) ↔
      ∃ own w, v = .obj own ∧ Keyed.lookup? key own = some w ∧ P w := by
  cases v with
  | obj own =>
    rw [memberOrNull]
    cases hmember : Keyed.lookup? key own <;> simp [hmember, hnull]
  | _ => simp [memberOrNull, hnull]

theorem memberOrNull_eq_obj {v : Json} {key : String} {ms : Json.Members} :
    memberOrNull v key = .obj ms ↔
      ∃ own, v = .obj own ∧ Keyed.lookup? key own = some (.obj ms) := by
  rw [memberOrNull_iff (P := (· = .obj ms)) (by simp)]
  simp

/-- The member of a value that may be missing, if the member holds something. -/
theorem get_orElse_eq_ok {v t : Json} {key : String} (ht : t.isSet = true) :
    (v.orElse (.obj [])).get key = .ok t ↔
      ∃ ms, v = .obj ms ∧ Keyed.lookup? key ms = some t := by
  have hobj (ms : Json.Members) :
      (Json.obj ms).get key = .ok t ↔ Keyed.lookup? key ms = some t := by
    have hget : (Json.obj ms).get key = .ok ((Keyed.lookup? key ms).getD .null) := rfl
    rw [hget, Except.ok.injEq]
    cases Keyed.lookup? key ms with
    | none =>
      have hne : Json.null ≠ t := by
        rintro rfl
        cases ht
      simpa using hne
    | some v => simp
  rw [Json.orElse]
  split
  · cases v with
    | obj ms => simp [hobj]
    | _ => simp [Json.get, Json.get?, Json.asMembers, Except.map]
  · next hset =>
    rw [hobj]
    refine ⟨nofun, ?_⟩
    rintro ⟨ms, rfl, hms⟩
    cases ms with
    | nil => exact hms
    | cons => exact absurd rfl hset

theorem access_eq_ok {answer t : Json} (ht : t.isSet = true) :
    ((memberOrNull answer "jwtTokens").orElse (.obj [])).get "access" = .ok t ↔
      HoldsToken answer t := by
  rw [get_orElse_eq_ok ht, HoldsToken]
  simp only [memberOrNull_eq_obj]
  constructor
  · rintro ⟨tokens, ⟨members, hanswer, htokens⟩, haccess⟩
    exact ⟨members, tokens, hanswer, htokens, haccess, ht⟩
  · rintro ⟨members, tokens, hanswer, htokens, haccess, -⟩
    exact ⟨tokens, ⟨members, hanswer, htokens⟩, haccess⟩

/-- What a login reads from the answer. -/
def tokenIn (answer : Json) : Except (Fault Error) Json :=
  match ((memberOrNull answer "jwtTokens").orElse (.obj [])).get "access" with
  | .error d => .error (.defect d)
  | .ok token => if token.isSet then .ok token else .error (.error .noToken)

theorem runIn_grantedToken (answer : Json) (s : Session) :
    (grantedToken answer).runIn s = (tokenIn answer, s) := by
  rw [grantedToken, tokenIn]
  cases ((memberOrNull answer "jwtTokens").orElse (.obj [])).get "access" with
  | error d => rfl
  | ok token =>
    change (if token.isSet then pure token else Exchange.fail .noToken : Exchange Json).runIn s =
      (if token.isSet then .ok token else .error (.error .noToken), s)
    split <;> rfl

/-- **A login reads the token from the answer**, if there is one. -/
theorem tokenIn_eq_ok {answer t : Json} : tokenIn answer = .ok t ↔ HoldsToken answer t := by
  rw [tokenIn]
  constructor
  · intro h
    split at h
    · cases h
    · next token htoken =>
      split at h
      · next hset =>
        cases h
        exact (access_eq_ok hset).1 htoken
      · cases h
  · intro h
    obtain ⟨_, _, _, _, _, ht⟩ := id h
    rw [(access_eq_ok ht).2 h]
    exact if_pos ht

/-- The request of a login. -/
def loginRequest (c : Client) : Request :=
  c.openRequest .post "auth/login" (.obj [("username", c.username), ("password", c.password)])

variable (c : Client) (s : Session)

theorem runIn_login_of_noAccount (h : c.hasAccount = false) :
    c.login.runIn s = (.error (.error .noCredentials), s) := by
  rw [login, h]
  rfl

/-- With one, a login is a turn, in which the token changes to the one in the answer, if there is
one. -/
theorem runIn_login_of_account (h : c.hasAccount = true) :
    c.login.runIn s =
      match c.loginRequest.result (s.hear c.loginRequest).1 with
      | .error e => (.error e, s.next c.loginRequest s.token)
      | .ok answer =>
        match tokenIn answer with
        | .error e => (.error e, s.next c.loginRequest s.token)
        | .ok t => (.ok t, s.next c.loginRequest (some t)) := by
  have hlogin : c.login.runIn s = (Exchange.send c.loginRequest >>= fun answer =>
      grantedToken answer >>= fun token =>
        (do modify fun s => { s with token := some token }; pure token : Exchange Json)).runIn
      s := by
    rw [login, h]
    rfl
  rw [hlogin, Exchange.runIn_bind, Exchange.runIn_send]
  cases c.loginRequest.result (s.hear c.loginRequest).1 with
  | error e => rfl
  | ok answer =>
    simp only [Exchange.runIn_bind, runIn_grantedToken]
    cases tokenIn answer <;> rfl

/-- **A login takes the token that the reply grants**, and fails if it grants none. -/
theorem runIn_login (h : c.hasAccount = true) :
    (∃ t, Grants (s.hear c.loginRequest).1 t ∧
      c.login.runIn s = (.ok t, s.next c.loginRequest (some t))) ∨
    (∀ t, ¬ Grants (s.hear c.loginRequest).1 t) ∧
      ∃ e, c.login.runIn s = (.error e, s.next c.loginRequest s.token) := by
  rw [c.runIn_login_of_account s h]
  cases hresult : c.loginRequest.result (s.hear c.loginRequest).1 with
  | error e =>
    refine .inr ⟨?_, e, rfl⟩
    rintro t ⟨status, body, answer, hreply, hstatus, hparse, -⟩
    have hok : c.loginRequest.result (s.hear c.loginRequest).1 = .ok answer :=
      Request.result_eq_ok.2 ⟨status, body, hreply, hstatus, hparse⟩
    rw [hresult] at hok
    cases hok
  | ok answer =>
    obtain ⟨status, body, hreply, hstatus, hparse⟩ := Request.result_eq_ok.1 hresult
    cases htoken : tokenIn answer with
    | ok t =>
      refine .inl ⟨t, ⟨status, body, answer, hreply, hstatus, hparse, tokenIn_eq_ok.1 htoken⟩, ?_⟩
      simp only [htoken]
    | error e =>
      refine .inr ⟨?_, e, by simp only [htoken]⟩
      rintro t ⟨status', body', answer', hreply', -, hparse', hholds⟩
      rw [hreply] at hreply'
      cases hreply'
      rw [hparse] at hparse'
      cases hparse'
      rw [tokenIn_eq_ok.2 hholds] at htoken
      cases htoken

end Client

end ContractAudit.Service
