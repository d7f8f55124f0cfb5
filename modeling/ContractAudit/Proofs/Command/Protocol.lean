/-
  The conversation of an analysis with the service.

  * `Prepared` is what is known once an analysis may be sent: every test before the first request
    has been passed.
  * `Prepared.endpoints` are the requests of an analysis in order: a login where there is no key,
    the submission, the queries of the status and the request for the issues.
  * `Prepared.Protocol` says how a run follows that order, and what it has done if it ends with the
    exit code 0.
  * The turns of a run get as far as `Asked` or `Finished`.  `exists_submitted` and
    `exists_awaited` are what the submission and the wait add to them, and `protocol_of_asked` and
    `Finished.protocol` say that a run that ends there has followed the order.
-/
import ContractAudit.Proofs.Command.Steps
import ContractAudit.Proofs.Service.Stops
import ContractAudit.Proofs.Solidity.Accepted

namespace ContractAudit

open Service (Turn Session Talks Heard Method memberOrNull)

/-- The method and the address of a request. -/
def Service.Turn.endpoint (turn : Turn) : Method × String :=
  (turn.request.method, turn.request.url)

/-! ## Prepared analyses -/

/-- What is known once an analysis may be sent: the file exists, its mode, format and settings are
valid, its sources were read, and the compiler found no errors and a contract with bytecode. -/
structure Prepared (r : Recording) (target : String) (contract : Option String)
    (o : AnalysisOptions) where
  mode : Mode
  format : Format
  loaded : Settings
  texts : List (String × String)
  output : Json
  compiled : Solidity.Contract
  data : RequestData
  isFile : ∃ bytes, r.files.find (Path.resolved r.directory target) = .ok (.file bytes)
  mode_eq : Mode.ofJson (.str o.mode) = .ok mode
  format_eq : Format.ofName o.format = .ok format
  loaded_eq : Settings.load r.environment = .ok loaded
  texts_eq : Solidity.sourcesOf r.files r.directory (Path.resolved r.directory target) none =
    .ok texts
  output_eq : Solidity.outputOf (o.compiler.getD loaded.compiler) r.compiler = .ok output
  noError : Solidity.ListsNoError output
  compiled_eq : Solidity.selectContract output (.str (Path.resolved r.directory target))
    (.ofText? contract) = .ok compiled
  hasBytecode : compiled.HasBytecode
  data_eq : requestData compiled output (.obj (texts.map fun (unit, text) => (unit, .str text)))
    (.str mode.name) .null (.str (Path.resolved r.directory target)) = .ok data

namespace Prepared

section
variable {r : Recording} {target : String} {contract : Option String} {o : AnalysisOptions}
  (p : Prepared r target contract o)

/-- The settings that the options leave. -/
def settings : Settings :=
  { p.loaded with
    clientName := o.clientName.getD p.loaded.clientName
    compiler := o.compiler.getD p.loaded.compiler }

/-- The sources by their names. -/
def sources : Json.Members :=
  p.texts.map fun (unit, text) => (unit, .str text)

/-- The client that asks for the analysis. -/
def client : Service.Client :=
  .ofSettings p.settings

/-- The session before the first request. -/
def session : Session :=
  { token := p.settings.apiKey.map .str, replies := r.replies }

/-- The reports of some findings. -/
def reports (findings : List Finding) : List Report :=
  (Report.ofFindings findings p.sources (p.data.sourceList.map Json.display)).1

/-! ## The order of the requests -/

/-- The login, which is only needed without a key. -/
def logins : List (Method × String) :=
  if p.settings.apiKey.isNone then [(.post, p.client.resource "auth/login")] else []

/-- The submission. -/
def submission : Method × String :=
  (.post, p.client.resource "analyses")

/-- The query of the status of a job. -/
def query (job : Json) : Method × String :=
  (.get, p.client.resource (Service.Client.jobPath job))

/-- The request for the issues of a job. -/
def fetch (job : Json) : Method × String :=
  (.get, p.client.resource (Service.Client.jobPath job ++ "/issues"))

/-- The requests of an analysis with `n` queries, up to the last of these. -/
def asked (job : Json) (n : Nat) : List (Method × String) :=
  p.logins ++ p.submission :: List.replicate n (p.query job)

/-- The requests of an analysis with `n` queries. -/
def endpoints (job : Json) (n : Nat) : List (Method × String) :=
  p.asked job n ++ [p.fetch job]

/-- The job is the one that the answer to the submission names. -/
def Names (turns : List Turn) (job : Json) : Prop :=
  ∀ turn ∈ turns, turn.endpoint = p.submission → ∀ answer,
    turn.request.result turn.reply = .ok answer → memberOrNull answer "uuid" = job

/-- The findings in some issue reports were gathered into reports, and these were printed last. -/
def Reported (payload : Json) (progress : Progress) : Prop :=
  ∃ findings text before, (Finding.ofReports payload).1 = .ok findings ∧
    Command.reportText r p.format (p.reports findings)
      (Report.cleanLine (Path.resolved r.directory target) (some p.compiled.name)) = .ok text ∧
    progress.output = before ++ text

/-- How a run of an analysis talks to the service, and how it ends. -/
structure Protocol (job : Json) (turns : List Turn) (outcome : Outcome) : Prop where
  talks : Talks p.session turns outcome.progress.session
  sent : outcome.progress.session.sent = turns.map Turn.request
  /-- Only a usable reply is followed by another request. -/
  usable : ∀ turn ∈ turns.dropLast, turn.reply.isUsable = true
  ordered : ∃ n, 1 ≤ n ∧ n ≤ 11 ∧ turns.map Turn.endpoint <+: p.endpoints job n
  named : p.Names turns job
  /-- The issues are asked for right after a query that shows that the job has finished. -/
  finished : ∀ before turn after, turns = before ++ turn :: after → turn.endpoint = p.fetch job →
    ∃ earlier last o, before = earlier ++ [last] ∧ last.endpoint = p.query job ∧
      last.observed = .ok o ∧ o.status = .finished
  /-- A run without failure has got the issues and reported them. -/
  reported : outcome.exitCode = 0 → ∃ turn status body payload,
    turns.getLast? = some turn ∧ turn.endpoint = p.fetch job ∧
    turn.reply = .answer status body ∧ status < 400 ∧ Json.parse? body = some payload ∧
    p.Reported payload outcome.progress

/-! ## Telling the requests apart -/

theorem resource_inj {c : Service.Client} {path path' : String}
    (h : c.resource path = c.resource path') : path = path' := by
  rw [Service.Client.resource, Service.Client.resource, String.append_right_inj] at h
  exact h

theorem submission_notMem_logins : p.submission ∉ p.logins := by
  rw [logins]
  split
  · rw [List.mem_singleton]
    intro h
    exact absurd (resource_inj (Prod.mk.inj h).2) (by decide)
  · exact List.not_mem_nil

theorem query_ne_submission (job : Json) : p.query job ≠ p.submission := by
  intro h
  cases (Prod.mk.inj h).1

theorem fetch_ne_query (job : Json) : p.fetch job ≠ p.query job := by
  intro h
  have hpath := congrArg String.length (resource_inj (Prod.mk.inj h).2)
  rw [String.length_append] at hpath
  exact absurd hpath (by have : "/issues".length = 7 := rfl; omega)

theorem fetch_notMem_asked (job : Json) (n : Nat) : p.fetch job ∉ p.asked job n := by
  rw [asked, List.mem_append, List.mem_cons, List.mem_replicate, logins]
  rintro (h | h | ⟨-, h⟩)
  · split at h
    · cases (Prod.mk.inj (List.mem_singleton.1 h)).1
    · cases h
  · cases (Prod.mk.inj h).1
  · exact p.fetch_ne_query job h

theorem asked_prefix (job : Json) {m n : Nat} (h : m ≤ n) : p.asked job m <+: p.asked job n := by
  obtain ⟨k, rfl⟩ := Nat.exists_eq_add_of_le h
  exact ⟨List.replicate k (p.query job), by
    rw [asked, asked, List.append_assoc, List.cons_append, List.replicate_append_replicate]⟩

theorem endpoint_ne_fetch {job : Json} {n : Nat} {turns : List Turn}
    (h : turns.map Turn.endpoint <+: p.asked job n) :
    ∀ turn ∈ turns, turn.endpoint ≠ p.fetch job := by
  intro turn hturn hfetch
  have hmem : turn.endpoint ∈ p.asked job n := h.subset (List.mem_map_of_mem hturn)
  exact p.fetch_notMem_asked job n (hfetch ▸ hmem)

variable {p}

theorem Names.append {job : Json} {turns more : List Turn} (h : p.Names turns job)
    (hmore : p.Names more job) : p.Names (turns ++ more) job := by
  intro turn hturn
  rcases List.mem_append.1 hturn with hturn | hturn
  · exact h turn hturn
  · exact hmore turn hturn

theorem names_of_ne {job : Json} {turns : List Turn}
    (h : ∀ turn ∈ turns, turn.endpoint ≠ p.submission) : p.Names turns job :=
  fun turn hturn hsubmission => absurd hsubmission (h turn hturn)

/-! ## Ends of runs -/

theorem exitCode_ne_zero {e : Ending} (h : e ≠ .exit 0) (progress : Progress) :
    Outcome.exitCode ⟨e, progress⟩ ≠ 0 := by
  cases e with
  | exit code => exact fun hcode => h (congrArg Ending.exit hcode)
  | broken d => exact Nat.one_ne_zero

theorem sent_eq {turns : List Turn} {s : Session} (h : Talks p.session turns s) :
    s.sent = turns.map Turn.request := by
  rw [h.sent_eq]
  rfl

/-- A run that fails before it asks for the issues. -/
theorem protocol_of_asked {job : Json} {turns : List Turn} {n : Nat}
    {failure : Option (Fault Service.Error)} {e : Ending} {progress : Progress}
    (hheard : Heard p.session turns failure progress.session) (hn : n ≤ 11)
    (hbegins : turns.map Turn.endpoint <+: p.asked job n) (hnamed : p.Names turns job)
    (he : e ≠ .exit 0) : p.Protocol job turns ⟨e, progress⟩ where
  talks := hheard.talks
  sent := sent_eq hheard.talks
  usable := hheard.usable
  ordered := ⟨max 1 n, le_max_left 1 n, max_le (by decide) hn,
    (hbegins.trans (p.asked_prefix job (le_max_right 1 n))).trans (List.prefix_append _ _)⟩
  named := hnamed
  finished := by
    rintro before turn after rfl hfetch
    exact absurd hfetch (p.endpoint_ne_fetch hbegins turn (by simp))
  reported hcode := absurd hcode (exitCode_ne_zero he progress)

/-! ## The submission -/

/-- The turns before the submission are the login, where there is no key. -/
theorem logins_of_acquires {turns : List Turn} {answer : Except (Fault Service.Error) Json}
    {s : Session} (hacquires : Service.Acquires p.client p.session turns answer s)
    (hlogins : turns = [] ∨ p.session.token = none ∧
      ∃ turn, turns = [turn] ∧ p.client.IsLogin turn.request) :
    turns.map Turn.endpoint <+: p.logins ∧
      ∀ t, answer = .ok t → turns.map Turn.endpoint = p.logins := by
  rcases hlogins with rfl | ⟨hnone, turn, rfl, hmethod, hurl⟩
  · refine ⟨List.nil_prefix, fun t ht => ?_⟩
    have htoken := hacquires.token_eq t ht
    cases hacquires.heard.talks
    cases hkey : p.settings.apiKey with
    | none => rw [session, hkey] at htoken; cases htoken
    | some key => rw [logins, hkey]; rfl
  · have hkey : p.settings.apiKey = none := Option.map_eq_none_iff.1 hnone
    have heq : [turn].map Turn.endpoint = p.logins := by
      rw [logins, hkey, List.map_singleton, Turn.endpoint, hmethod, hurl]
      rfl
    exact ⟨heq ▸ List.prefix_rfl, fun _ _ => heq⟩

variable (p) in
/-- The turns up to the `n`-th query have given what they were for. -/
structure Asked (job : Json) (n : Nat) (turns : List Turn) (s : Session) : Prop where
  heard : Heard p.session turns none s
  token : ∃ t, s.token = some t
  endpoints : turns.map Turn.endpoint = p.asked job n
  named : p.Names turns job

/-- **The submission names a job, or it is the last request.** -/
theorem exists_submitted {body : Json} {members : Json.Members}
    (hbody : body.toMembers = .ok members) :
    ∃ job turns, Heard p.session turns ((p.client.submit body).failure? p.session)
        ((p.client.submit body).runIn p.session).2 ∧
      turns.map Turn.endpoint <+: p.asked job 0 ∧ p.Names turns job ∧
      ∀ job', ((p.client.submit body).runIn p.session).1 = .ok job' →
        p.Asked job' 0 turns ((p.client.submit body).runIn p.session).2 := by
  obtain ⟨logins, hacquires, hlogins⟩ := Service.exists_acquires p.client p.session
  obtain ⟨hbegins, hall⟩ := logins_of_acquires hacquires hlogins
  have hnamed (job : Json) : p.Names logins job := names_of_ne fun turn hturn h =>
    p.submission_notMem_logins (h ▸ hbegins.subset (List.mem_map_of_mem hturn))
  rw [Service.Exchange.failure?, Service.runIn_submit hbody, Service.runIn_ask]
  rcases htoken : p.client.token.runIn p.session with ⟨e | t, s₁⟩ <;>
    rw [htoken] at hacquires hall
  · exact ⟨.null, logins, hacquires.heard, hbegins.trans (List.prefix_append _ _), hnamed _,
      fun _ h => by cases h⟩
  · dsimp only
    generalize hr : p.client.tokenRequest .post "analyses" (.obj members) t = request
    -- the job that the answer names, if there is one
    obtain ⟨job, hjob⟩ : ∃ job, ∀ answer, request.result (s₁.hear request).1 = .ok answer →
        memberOrNull answer "uuid" = job := by
      cases request.result (s₁.hear request).1 with
      | error e => exact ⟨.null, fun _ h => by cases h⟩
      | ok answer => exact ⟨memberOrNull answer "uuid", fun _ h => by rw [Except.ok.inj h]⟩
    have hheard (failure : Option (Fault Service.Error))
        (h : ∀ e, request.result (s₁.hear request).1 = .error e → failure = some e) :
        Heard p.session (logins ++ [s₁.turn request s₁.token]) failure
          (s₁.next request s₁.token) :=
      hacquires.heard.append (.singleton h)
    have hendpoints :
        (logins ++ [s₁.turn request s₁.token]).map Turn.endpoint = p.asked job 0 := by
      rw [List.map_append, hall t rfl, ← hr]
      rfl
    have hnames : p.Names (logins ++ [s₁.turn request s₁.token]) job :=
      (hnamed job).append (List.forall_mem_singleton.2 fun _ => hjob)
    refine ⟨job, _, hheard _ fun e he => by rw [he]; rfl, hendpoints ▸ List.prefix_rfl, hnames,
      fun job' h => ?_⟩
    cases hresult : request.result (s₁.hear request).1 with
    | error e =>
      rw [hresult] at h
      cases h
    | ok answer =>
      rw [hresult] at h
      obtain rfl : job' = job := (Service.Client.eq_of_jobIn h).trans (hjob answer hresult)
      exact ⟨hheard none (fun e he => by cases hresult.symm.trans he),
        ⟨t, hacquires.token_eq t rfl⟩, hendpoints, hnames⟩

/-! ## The wait -/

variable (p) in
/-- The turns up to a query that shows that the job has finished. -/
structure Finished (job : Json) (turns : List Turn) (s : Session) : Prop where
  asked : ∃ n, 1 ≤ n ∧ n ≤ 11 ∧ p.Asked job n turns s
  last : ∃ earlier last o, turns = earlier ++ [last] ∧ last.endpoint = p.query job ∧
    last.observed = .ok o ∧ o.status = .finished

theorem maxAttempts_schedule (mode : Mode) : (mode.schedule.maxAttempts + 1).toNat = 11 := by
  cases mode <;> rfl

/-- **A wait makes at most eleven queries**, and the last one shows how it ends. -/
theorem exists_awaited {job : Json} {turns : List Turn} {s : Session}
    (h : p.Asked job 0 turns s) :
    ∃ n, n ≤ 11 ∧ ∃ all, all.map Turn.endpoint = p.asked job n ∧ p.Names all job ∧
      Heard p.session all (Service.queryFailure (p.client.watch job p.mode.schedule s).outcome)
        (p.client.watch job p.mode.schedule s).world.session ∧
      ∀ state, (p.client.watch job p.mode.schedule s).outcome = .ok state →
        state.status ≠ .error →
        p.Finished job all (p.client.watch job p.mode.schedule s).world.session := by
  obtain ⟨t, ht⟩ := h.token
  obtain ⟨queries, hqueries, htoken, hrequests, hlength, hlast⟩ :=
    Service.exists_watched (c := p.client) job p.mode.schedule ht
  rw [maxAttempts_schedule] at hlength
  have hquery : ∀ turn ∈ queries, turn.endpoint = p.query job := fun turn hturn => by
    rw [Turn.endpoint, hrequests turn hturn]
    rfl
  have hall : (turns ++ queries).map Turn.endpoint = p.asked job queries.length := by
    rw [List.map_append, h.endpoints, List.map_congr_left hquery, List.map_const',
      Prepared.asked, Prepared.asked, List.append_assoc]
    rfl
  have hnames : p.Names (turns ++ queries) job :=
    h.named.append (names_of_ne fun turn hturn => hquery turn hturn ▸ p.query_ne_submission job)
  refine ⟨queries.length, hlength, turns ++ queries, hall, hnames, h.heard.append hqueries,
    fun state hstate hstatus => ?_⟩
  obtain ⟨last, o, hmem, hobserved, ho, hterminal⟩ := hlast state hstate
  have hfinished : o.status = .finished := by
    rw [← ho] at hstatus
    cases hcase : o.status with
    | pending => rw [hcase] at hterminal; cases hterminal
    | error => exact absurd hcase hstatus
    | finished => rfl
  rw [hstate] at hqueries
  obtain ⟨earlier, rfl⟩ := List.getLast?_eq_some_iff.1 hmem
  exact {
    asked := ⟨_, by simp, hlength, h.heard.append hqueries, ⟨t, htoken⟩, hall, hnames⟩
    last := ⟨turns ++ earlier, last, o, (List.append_assoc ..).symm, hquery last (by simp),
      hobserved, hfinished⟩ }

/-! ## The issues -/

/-- A run that has asked for the issues. -/
theorem Finished.protocol {job : Json} {turns : List Turn} {s : Session} {turn : Turn}
    (h : p.Finished job turns s) {failure : Option (Fault Service.Error)} {e : Ending}
    {progress : Progress} (hfetched : Heard s [turn] failure progress.session)
    (hturn : turn.endpoint = p.fetch job)
    (hreported : e = .exit 0 → ∃ payload, turn.request.result turn.reply = .ok payload ∧
      p.Reported payload progress) : p.Protocol job (turns ++ [turn]) ⟨e, progress⟩ := by
  obtain ⟨n, hpos, hn, hasked⟩ := h.asked
  have hendpoints := hasked.endpoints
  have hheard := hasked.heard.append hfetched
  have hall : (turns ++ [turn]).map Turn.endpoint = p.endpoints job n := by
    rw [List.map_append, hendpoints, List.map_singleton, hturn, endpoints]
  exact {
    talks := hheard.talks
    sent := sent_eq hheard.talks
    usable := hheard.usable
    ordered := ⟨n, hpos, hn, hall ▸ List.prefix_rfl⟩
    named := hasked.named.append (names_of_ne (List.forall_mem_singleton.2 fun hsubmission =>
      by rw [hturn] at hsubmission; cases (Prod.mk.inj hsubmission).1))
    finished := by
      intro before turn' after hsplit hfetch
      rcases List.eq_nil_or_concat after with rfl | ⟨after, other, rfl⟩
      · rw [(List.append_inj' hsplit rfl).1.symm]
        exact h.last
      · -- only the last request is for the issues
        rw [List.concat_eq_append, ← List.cons_append, ← List.append_assoc] at hsplit
        obtain rfl : turns = before ++ turn' :: after := (List.append_inj' hsplit rfl).1
        have hbegins : (before ++ turn' :: after).map Turn.endpoint <+: p.asked job n :=
          hendpoints ▸ List.prefix_rfl
        exact absurd hfetch
          (p.endpoint_ne_fetch hbegins turn' (List.mem_append_right _ List.mem_cons_self))
    reported := by
      intro hcode
      have he : e = .exit 0 := by
        by_contra he
        exact exitCode_ne_zero he progress hcode
      obtain ⟨payload, hresult, hpayload⟩ := hreported he
      obtain ⟨status, body, hreply, hstatus, hparse⟩ := Service.Request.result_eq_ok.1 hresult
      exact ⟨turn, status, body, payload, List.getLast?_concat, hturn, hreply, hstatus, hparse,
        hpayload⟩ }

end

end Prepared

end ContractAudit
