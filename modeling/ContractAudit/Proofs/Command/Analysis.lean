/-
  Every run of an analysis follows the protocol.

  * A run is `Accounted` for if it has sent nothing and fails, or if it follows the protocol.  The
    rest of a run `Conforms` if every end of it is accounted for.
  * `conforms_…`: one rule for each phase of the conversation.  `conforms_analyzeFile` puts these
    after the quiet steps that prepare the analysis.
  * `analysis_goes_through`: a prepared analysis exits with zero if its requests are answered and
    the job has finished at the first query.
-/
import ContractAudit.Proofs.Command.Protocol
import ContractAudit.Proofs.Service.Defects
import ContractAudit.Proofs.Submission

namespace ContractAudit

open Service (Turn Heard)

namespace Prepared

section
variable {r : Recording} {target : String} {contract : Option String} {o : AnalysisOptions}
  {p : Prepared r target contract o} {progress : Progress}

/-! ## Phases of a run -/

variable (r target contract o) in
/-- A run has sent nothing and fails, or it follows the order of the requests. -/
def Accounted (e : Ending) (progress : Progress) : Prop :=
  (progress.session.sent = [] ∧ e ≠ .exit 0) ∨
    ∃ (p : Prepared r target contract o) (job : Json) (turns : List Turn),
      p.Protocol job turns ⟨e, progress⟩

variable (r target contract o) in
/-- The rest of a run ends as it should. -/
def Conforms (x : Step Unit) (progress : Progress) : Prop :=
  x.Holds progress (fun _ => Accounted r target contract o (.exit 0))
    (Accounted r target contract o)

theorem Asked.accounted {job : Json} {n : Nat} {turns : List Turn} {e : Ending}
    (h : p.Asked job n turns progress.session) (hn : n ≤ 11) (he : e ≠ .exit 0) :
    Accounted r target contract o e progress :=
  .inr ⟨p, job, turns,
    protocol_of_asked h.heard hn (h.endpoints ▸ List.prefix_rfl) h.named he⟩

/-- The submission, after which there is a job. -/
theorem conforms_submit {body : Json} {members : Json.Members}
    {message : Service.Error → String} {k : Json → Step Unit}
    (hbody : body.toMembers = .ok members) (hsession : progress.session = p.session)
    (hdone : ∀ job turns progress', p.Asked job 0 turns progress'.session →
      Conforms r target contract o (k job) progress') :
    Conforms r target contract o (Step.ask (p.client.submit body) message >>= k) progress := by
  obtain ⟨job, turns, hheard, hbegins, hnamed, hasked⟩ := p.exists_submitted hbody
  rw [← hsession] at hheard hasked
  refine .bind (Step.holds_ask (fun job' progress' hjob hsession' => ?_)
    fun e progress' fault he _ hsession' => ?_)
  · exact hdone job' turns progress' (hsession' ▸ hasked job' hjob)
  · rw [← hsession', hsession] at hheard
    exact .inr ⟨p, job, turns, protocol_of_asked hheard (Nat.zero_le _) hbegins hnamed he⟩

/-- The wait, after which the job has finished or failed. -/
theorem Asked.conforms_await {job : Json} {turns : List Turn}
    {k : Job.State Job.Time → Step Unit} (h : p.Asked job 0 turns progress.session)
    (hfailed : ∀ state progress', state.status = .error →
      (∀ e p', e ≠ .exit 0 → p'.session = progress'.session →
        Accounted r target contract o e p') →
      Conforms r target contract o (k state) progress')
    (hfinished : ∀ state progress' turns', state.status ≠ .error →
      p.Finished job turns' progress'.session →
      Conforms r target contract o (k state) progress') :
    Conforms r target contract o (Command.awaitJob p.client job p.mode.schedule >>= k)
      progress := by
  obtain ⟨n, hn, all, hall, hnamed, hheard, hdone⟩ := exists_awaited h
  have hended : ∀ e progress', e ≠ .exit 0 →
      progress'.session = (p.client.watch job p.mode.schedule progress.session).world.session →
      Accounted r target contract o e progress' := by
    intro e progress' he hsession
    rw [← hsession] at hheard
    exact .inr ⟨p, job, all, protocol_of_asked hheard hn (hall ▸ List.prefix_rfl) hnamed he⟩
  refine .bind (Command.holds_awaitJob (fun state progress' hstate hsession => ?_) hended)
  rw [← hsession] at hended hdone
  by_cases hstatus : state.status = .error
  · exact hfailed state progress' hstatus hended
  · exact hfinished state progress' all hstatus (hdone state hstate hstatus)

/-- The request for the issues, which are still to be reported. -/
theorem Finished.conforms_fetch {job : Json} {turns : List Turn}
    {message : Service.Error → String} {k : Json → Step Unit}
    (h : p.Finished job turns progress.session)
    (hdone : ∀ payload progress', (∀ e p', p'.session = progress'.session →
      (e = .exit 0 → p.Reported payload p') → Accounted r target contract o e p') →
      Conforms r target contract o (k payload) progress') :
    Conforms r target contract o (Step.ask (p.client.issues job) message >>= k) progress := by
  obtain ⟨n, -, -, hasked⟩ := h.asked
  obtain ⟨t, ht⟩ := hasked.token
  have hrun : (p.client.issues job).runIn progress.session = _ :=
    Service.runIn_ask_of_token (Service.runIn_token_of_some ht) .get
      (Service.Client.jobPath job ++ "/issues") .null
  generalize hr : p.client.tokenRequest .get (Service.Client.jobPath job ++ "/issues") .null t =
    request at hrun
  have hturn : (progress.session.turn request progress.session.token).endpoint = p.fetch job := by
    rw [← hr]
    rfl
  have hheard : Heard progress.session [progress.session.turn request progress.session.token]
      (Service.failureOf (request.result (progress.session.hear request).1))
      (progress.session.next request progress.session.token) :=
    .singleton fun e he => congrArg Service.failureOf he
  refine .bind (Step.holds_ask (fun payload progress' hpayload hsession => ?_)
    fun e progress' fault he _ hsession => ?_) <;> rw [hrun] at hsession <;>
    dsimp only at hsession
  · rw [hrun] at hpayload
    refine hdone payload progress' fun e p' hp' hreported => ?_
    rw [← hsession, ← hp'] at hheard
    exact .inr ⟨p, job, _, h.protocol hheard hturn fun he => ⟨payload, hpayload, hreported he⟩⟩
  · rw [← hsession] at hheard
    exact .inr ⟨p, job, _, h.protocol hheard hturn fun he' => absurd he' he⟩

end

end Prepared

/-! ## The run -/

open Command Step Prepared in
/-- Every run of an analysis is accounted for. -/
theorem Command.conforms_analyzeFile (r : Recording) (target : String) (contract : Option String)
    (o : AnalysisOptions) {progress : Progress}
    (hstart : progress.session = { token := none, replies := r.replies }) :
    Conforms r target contract o (analyzeFile r target contract o) progress := by
  -- before the first request, every failure has sent nothing
  have hunsent : ∀ e p', e ≠ .exit 0 → p'.session = { token := none, replies := r.replies } →
      Accounted r target contract o e p' := fun e p' he hp' => .inl ⟨by rw [hp'], he⟩
  unfold analyzeFile
  refine (quiet_targetFile r target).bind_holds hstart ?_ hunsent
  rintro path p₁ ⟨rfl, hfile⟩ hp₁
  refine (quiet_orRefuseFault _ _ _).bind_holds hp₁ (fun mode p₂ hmode hp₂ => ?_) hunsent
  refine (quiet_orRefuse _ _).bind_holds hp₂ (fun format p₃ hformat hp₃ => ?_) hunsent
  refine (quiet_settings r).bind_holds hp₃ (fun loaded p₄ hloaded hp₄ => ?_) hunsent
  dsimp only
  refine (quiet_printMarkup _).when_holds hp₄ (fun p₅ hp₅ => ?_) hunsent
  refine (quiet_compiling _).bind_holds hp₅ (fun texts p₆ htexts hp₆ => ?_) hunsent
  refine (quiet_compile r _ _).bind_holds hp₆ (fun output p₇ houtput hp₇ => ?_) hunsent
  refine (quiet_compiling _).bind_holds hp₇ (fun compiled p₈ hcompiled hp₈ => ?_) hunsent
  refine (quiet_printMarkup _).bind_holds hp₈ (fun _ p₉ _ hp₉ => ?_) hunsent
  refine (quiet_lift _).bind_holds hp₉ (fun data p₁₀ hdata hp₁₀ => ?_) hunsent
  refine (quiet_printBody _ _).when_holds hp₁₀ (fun p₁₁ hp₁₁ => ?_) hunsent
  -- everything is ready to be sent
  let p : Prepared r target contract o := {
    mode, format, loaded, texts, output, compiled, data
    isFile := hfile
    mode_eq := hmode
    format_eq := hformat
    loaded_eq := hloaded
    texts_eq := htexts
    output_eq := houtput
    noError := (Solidity.outputOf_yields _ _ output houtput).2
    compiled_eq := hcompiled
    hasBytecode := Solidity.selectContract_yields _ _ _ compiled hcompiled
    data_eq := hdata }
  refine .bind (holds_signIn ?_)
  refine p.conforms_submit rfl (by rw [hp₁₁]; rfl) fun job turns q₁ hasked => ?_
  refine (quiet_printMarkup _).bind_holds rfl (fun _ q₂ _ hq₂ => ?_) fun e p' he hp' =>
    Asked.accounted (hp' ▸ hasked) (Nat.zero_le _) he
  rw [← hq₂] at hasked
  refine hasked.conforms_await (fun state q₃ hstatus hended => ?_)
    fun state q₃ turns hstatus hfinished => ?_
  · rw [if_pos hstatus]
    exact (quiet_refuse (P := fun _ => False) _ _).bind_holds rfl (fun _ _ h => h.elim) hended
  · rw [if_neg hstatus]
    refine hfinished.conforms_fetch fun payload q₄ hreported => ?_
    have hended : ∀ e p', e ≠ .exit 0 → p'.session = q₄.session →
        Accounted r target contract o e p' :=
      fun e p' he hp' => hreported e p' hp' fun he' => absurd he' he
    refine (quiet_printBody _ _).when_holds rfl (fun q₅ hq₅ => ?_) hended
    refine (quiet_lift _).bind_holds hq₅ (fun findings q₆ hfindings hq₆ => ?_) hended
    refine holds_printReports (fun text htext => ?_) fun e p' he hp' =>
      hended e p' he (hp'.trans hq₆)
    exact hreported _ _ hq₆ fun _ => ⟨findings, text, q₆.output, hfindings, htext, rfl⟩

/-- **Every analysis follows the protocol**, whatever surrounds it and whatever its arguments are:
it sends nothing and fails, or it is prepared and its requests come in their order. -/
theorem analyze_protocol (r : Recording) {args : List String} {target : String}
    {contract : Option String} {o : AnalysisOptions}
    (h : Command.ofArguments? args = some (.analyze target contract o)) :
    ((runArguments r args).progress.session.sent = [] ∧ (runArguments r args).exitCode ≠ 0) ∨
      ∃ (p : Prepared r target contract o) (job : Json) (turns : List Turn),
        p.Protocol job turns (runArguments r args) := by
  let start : Progress := { session := { token := none, replies := r.replies } }
  have hrun : runArguments r args =
      match (Command.analyzeFile r target contract o).runFrom start with
      | (.ok (), progress) => ⟨.exit 0, progress⟩
      | (.error ending, progress) => ⟨ending, progress⟩ := by
    rw [runArguments, h]
    rfl
  have hconforms : Prepared.Conforms r target contract o
      (Command.analyzeFile r target contract o) start :=
    Command.conforms_analyzeFile r target contract o rfl
  rw [hrun]
  rcases hsteps : (Command.analyzeFile r target contract o).runFrom start with
    ⟨e | ⟨⟩, progress⟩
  · exact (hconforms.ended e progress hsteps).imp_left fun h =>
      ⟨h.1, Prepared.exitCode_ne_zero h.2 progress⟩
  · exact (hconforms.done () progress hsteps).imp_left fun h => absurd rfl h.2

/-! ## Runs that go through -/

/-- A watch ends with its first query if that shows a terminal status. -/
theorem Service.exists_watch_of_terminal {c : Service.Client} {job : Json} {schedule : Job.Schedule}
    {s s' : Session} {o : Job.Observation} (hplan : ∃ plan, schedule.plan = .ok plan)
    (hquery : (c.queryStatus job).runIn s = (.ok o, s')) (hterminal : o.status.isTerminal = true) :
    ∃ state, (c.watch job schedule s).outcome = .ok state ∧ state.status = o.status ∧
      (c.watch job schedule s).world.session = s' := by
  obtain ⟨plan, hplan⟩ := hplan
  have hworld : (c.world job).query { session := s } = (.ok o, { session := s' }) := by
    simp only [Service.Client.world, hquery]
  have hclock : (c.world job).clock { session := s } = (.real 0, { session := s }) := rfl
  have hterminal : (o.state 0 (Job.Time.real 0) (Job.Time.real 0)).isTerminal = true := hterminal
  have hrun : c.watch job schedule s =
      ⟨.ok (o.state 0 (.real 0) (.real 0)), [.query (.real 0)], { session := s' }⟩ := by
    rw [Service.Client.watch, Job.World.awaitBy, hplan]
    simp only [Job.World.await, hclock, Job.World.observe_of_ok hworld rfl, hterminal, if_true]
  exact ⟨_, by rw [hrun], rfl, by rw [hrun]⟩

open Command Step in
theorem Command.holds_awaitJob_of_terminal {c : Service.Client} {job : Json}
    {schedule : Job.Schedule} {p : Progress} {s' : Service.Session} {o : Job.Observation}
    {done : Job.State Job.Time → Progress → Prop} {ended : Ending → Progress → Prop}
    (hplan : ∃ plan, schedule.plan = .ok plan)
    (hquery : (c.queryStatus job).runIn p.session = (.ok o, s'))
    (hterminal : o.status.isTerminal = true)
    (hdone : ∀ state p', state.status = o.status → p'.session = s' → done state p') :
    (awaitJob c job schedule).Holds p done ended := by
  obtain ⟨state, houtcome, hstatus, hsession⟩ :=
    Service.exists_watch_of_terminal hplan hquery hterminal
  rw [awaitJob]
  refine .bind (.of_ok rfl (.bind (.of_ok rfl ?_)))
  rw [houtcome]
  exact .of_ok rfl (hdone state _ hstatus hsession)

theorem Mode.exists_plan (mode : Mode) : ∃ plan, mode.schedule.plan = .ok plan := by
  cases mode <;> exact Job.Schedule.exists_plan (by decide) (by decide) (by decide)

open Command Step in
/-- **A prepared analysis goes through** if its requests are answered, the first query shows that
the job has finished, and what the service found can be printed. -/
theorem analysis_goes_through {r : Recording} {args : List String} {target : String}
    {contract : Option String} {o : AnalysisOptions} (p : Prepared r target contract o)
    (h : Command.ofArguments? args = some (.analyze target contract o))
    (hnull : Path.hasNull target = false)
    {job payload : Json} {seen : Job.Observation} {findings : List Finding}
    {s₁ s₂ s₃ : Service.Session}
    (hnamed : Returns (Terminal.marked ("[green]✔[/green] Compiled contract " ++ p.compiled.name)))
    (hsubmit : (p.client.submit (submission p.data (.str p.settings.clientName)
      (.bool o.withoutCache))).runIn p.session = (.ok job, s₁))
    (hlinked : Returns (Terminal.marked ("[green]✔[/green] Analysis job submitted: [yellow]" ++
      Service.dashboardUrl job ++ "[/yellow]")))
    (hquery : (p.client.queryStatus job).runIn s₁ = (.ok seen, s₂))
    (hfinished : seen.status = .finished)
    (hissues : (p.client.issues job).runIn s₂ = (.ok payload, s₃))
    (hfindings : (Finding.ofReports payload).1 = .ok findings)
    (htext : Returns (reportText r p.format (p.reports findings)
      (Report.cleanLine (Path.resolved r.directory target) (some p.compiled.name)))) :
    (runArguments r args).exitCode = 0 ∧ (runArguments r args).progress.session = s₃ := by
  suffices hends : (runArguments r args).ending = .exit 0 ∧
      (runArguments r args).progress.session = s₃ from
    ⟨by rw [Outcome.exitCode, hends.1], hends.2⟩
  refine runArguments_ends h (fun e q => e = .exit 0 ∧ q.session = s₃) ?_
  rw [Command.steps]
  unfold analyzeFile
  refine .bind (.of_ok (runFrom_targetFile hnull p.isFile _) ?_)
  rw [p.mode_eq, p.format_eq]
  refine .bind (.of_ok rfl (.bind (.of_ok rfl ?_)))
  rw [Step.settings, p.loaded_eq]
  refine .bind (.of_ok rfl ?_)
  dsimp only
  refine (passes_printMarkup ⟨_, marked_trialNotice⟩).when_holds rfl fun q₁ hq₁ => ?_
  rw [p.texts_eq]
  have hcompile : (compile r p.settings.compiler p.sources).runFrom q₁ =
      (.ok p.output, { q₁ with compilations := q₁.compilations ++
        [(Solidity.arguments p.settings.compiler, Solidity.compilerInput p.sources)] }) := by
    rw [compile, Prepared.settings, p.output_eq]
    rfl
  refine .bind (.of_ok rfl (.bind (.of_ok hcompile ?_)))
  rw [p.compiled_eq]
  refine .bind (.of_ok rfl ((passes_printMarkup hnamed).bind_holds hq₁ fun q₂ hq₂ => ?_))
  rw [p.data_eq]
  refine .bind (.of_ok rfl ((passes_print _).when_holds hq₂ fun q₃ hq₃ => ?_))
  refine .bind (holds_signIn (.bind ?_))
  refine .of_ok (runFrom_ask (show _ = (Except.ok job, s₁) from ?_)) ?_
  · rw [hq₃]
    exact hsubmit
  refine (passes_printMarkup hlinked).bind_holds rfl fun q₄ (hq₄ : q₄.session = s₁) => ?_
  rw [← hq₄] at hquery
  refine .bind (holds_awaitJob_of_terminal p.mode.exists_plan hquery (by rw [hfinished]; rfl)
    fun state q₅ hstate hq₅ => ?_)
  rw [if_neg (by rw [hstate, hfinished]; decide)]
  rw [← hq₅] at hissues
  refine .bind (.of_ok (runFrom_ask hissues) ?_)
  refine (passes_print _).when_holds rfl fun q₆ (hq₆ : q₆.session = s₃) => ?_
  rw [hfindings]
  obtain ⟨text, htext⟩ := htext
  exact .bind (.of_ok rfl (.of_ok (runFrom_printReports htext) ⟨rfl, hq₆⟩))

open Service in
/-- A login, a submission, a query and the issues, each answered by one reply. -/
theorem Service.exists_conversation {c : Service.Client} {s : Session} (body job : Json)
    {members : Json.Members} {granted submitted seen payload t : Json} {o : Job.Observation}
    (haccount : c.hasAccount = true) (hbody : body.toMembers = .ok members)
    (htoken : s.token = none)
    (hreplies : s.replies = [granted, submitted, seen, payload].map replyWith)
    (hread : ∀ v ∈ [granted, submitted, seen, payload],
      v.isExact = true ∧ v.height ≤ Json.maxLevels)
    (hgranted : Client.tokenIn granted = .ok t) (hsubmitted : Client.jobIn submitted = .ok job)
    (hseen : observation seen = .ok o) :
    ∃ s₁ s₂ s₃, (c.submit body).runIn s = (.ok job, s₁) ∧
      (c.queryStatus job).runIn s₁ = (.ok o, s₂) ∧ (c.issues job).runIn s₂ = (.ok payload, s₃) ∧
      s₃.sent.map (fun q => (q.method, q.url)) = s.sent.map (fun q => (q.method, q.url)) ++ [
        (.post, c.resource "auth/login"), (.post, c.resource "analyses"),
        (.get, c.resource (Client.jobPath job)),
        (.get, c.resource (Client.jobPath job ++ "/issues"))] := by
  simp only [List.forall_mem_cons, List.not_mem_nil, false_implies, implies_true, and_true]
    at hread
  obtain ⟨⟨hg, hg'⟩, ⟨hs, hs'⟩, ⟨ho, ho'⟩, ⟨hp, hp'⟩⟩ := hread
  obtain ⟨s₀, hin, htoken₀, hreplies₀, hsent₀⟩ :=
    exists_granted haccount htoken hreplies hg hg' hgranted
  obtain ⟨s₁, hsubmit, htoken₁, hreplies₁, hsent₁⟩ :=
    exists_answered hin htoken₀ hreplies₀ hs hs' .post "analyses" (.obj members)
  obtain ⟨s₂, hquery, htoken₂, hreplies₂, hsent₂⟩ :=
    exists_answered (runIn_token_of_some htoken₁) htoken₁ hreplies₁ ho ho' .get
      (Client.jobPath job) .null
  obtain ⟨s₃, hissues, -, -, hsent₃⟩ :=
    exists_answered (runIn_token_of_some htoken₂) htoken₂ hreplies₂ hp hp' .get
      (Client.jobPath job ++ "/issues") .null
  refine ⟨s₁, s₂, s₃, ?_, ?_, hissues, ?_⟩
  · rw [runIn_submit hbody, hsubmit]
    exact congrArg (·, s₁) hsubmitted
  · rw [Client.queryStatus, Client.statusRecord, Exchange.runIn_bind, hquery]
    dsimp only
    rw [Exchange.runIn_lift, hseen]
    rfl
  · rw [hsent₃, hsent₂, hsent₁, hsent₀]
    simp only [List.map_append, List.append_assoc]
    rfl

theorem Command.returns_reportText {r : Recording} {f : Format} {reports : List Report}
    {clean : String} (h : Returns (f.render r.directory reports)) :
    Returns (reportText r f reports clean) := by
  rw [reportText]
  split
  · exact .ok _
  · exact (Returns.map_iff _).2 h

/-! ## An analysis of one file -/

/-- What the compiler makes of a file with one contract. -/
def compiledFile : Json := .obj [
  ("contracts", .obj [("/work/C.sol", .obj [("C",
    .obj [("evm", .obj [("bytecode", .obj [("object", .str "6000")])])])])]),
  ("sources", .obj [("/work/C.sol", .obj [("id", .int 0)])])]

/-- What the service found in the file. -/
def fileReports : Json := .arr [.obj [("issues", .arr [.obj [
  ("swcID", .str "SWC-106"), ("severity", .str "High"),
  ("description", .obj [("head", .str "Unprotected"), ("tail", .str "")]),
  ("locations", .arr [.obj [("sourceMap", .str "9:1:0"), ("sourceType", .str "solidity-file"),
    ("sourceFormat", .str "text"), ("sourceList", .arr [.str "/work/C.sol"])]])]])]]

/-- The file, an account, and the answers to a login, a submission, a query and the request for the
issues. -/
def fileRecording : Recording where
  directory := "/work"
  environment := [("MYTHX_USERNAME", .str "name"), ("MYTHX_PASSWORD", .str "word")]
  files :=
    { directory := "/work"
      entries := [(["work", "C.sol"], .file (Text.Utf8.encode "contract C \x7b\x7d"))] }
  compiler := .finished 0 (compiledFile.write Json.reportLayout) ""
  replies := [.obj [("jwtTokens", .obj [("access", .str "token")])], .obj [("uuid", .str "job")],
    .obj [("status", .str "Finished")], fileReports].map Service.replyWith

/-- The settings that the account leads to. -/
def fileSettings : Settings :=
  { apiUrl := Settings.defaultUrl, username := some "name", password := some "word" }

/-- The analysis of the file can be prepared. -/
theorem exists_prepared_file : ∃ p : Prepared fileRecording "C.sol" none {},
    p.settings = fileSettings ∧ p.format = .text ∧
      p.sources = [("/work/C.sol", .str "contract C \x7b\x7d")] ∧ p.compiled.name = "C" ∧
      p.data.sourceList = [.str "/work/C.sol"] := by
  have hpath : Path.resolved fileRecording.directory "C.sol" = "/work/C.sol" := by decide +kernel
  have houtput :
      Solidity.outputOf fileSettings.compiler fileRecording.compiler = .ok compiledFile := by
    rw [fileRecording, Solidity.outputOf,
      Json.parse_write Json.reportLayout_separates (by decide) (by decide)]
    rfl
  have hname : (Solidity.selectContract compiledFile (.str "/work/C.sol") .null).toOption.map
      (·.name) = some "C" := by decide +kernel
  obtain ⟨compiled, hcompiled, hname⟩ := Option.map_eq_some_iff.1 hname
  have hcompiled := toOption_eq_some_iff.1 hcompiled
  have hsources : compiledFile.get "sources" =
      .ok (.obj [("/work/C.sol", .obj [("id", .int 0)])]) := rfl
  obtain ⟨data, hdata⟩ : ∃ data, requestData compiled compiledFile
      (.obj [("/work/C.sol", .str "contract C \x7b\x7d")]) (.str "quick") .null
      (.str "/work/C.sol") = .ok data :=
    exists_requestData _ _ _ hsources (List.forall_mem_singleton.2 ⟨_, 0, rfl, rfl⟩)
  have hlist : data.sourceList = [.str "/work/C.sol"] := by
    obtain ⟨paths, hpaths, hdata⟩ := sourceList_of_requestData _ _ _ hsources hdata
    have hnamed : (sourceList compiledFile).toOption = some ["/work/C.sol"] := by decide +kernel
    obtain rfl := Except.ok.inj ((toOption_eq_some_iff.1 hnamed).symm.trans hpaths)
    exact hdata
  exact ⟨{
    mode := .quick
    format := .text
    loaded := fileSettings
    texts := [("/work/C.sol", "contract C \x7b\x7d")]
    output := compiledFile
    compiled
    data
    isFile := ⟨Text.Utf8.encode "contract C \x7b\x7d", by
      rw [hpath]
      exact toOption_eq_some_iff.1 (by decide +kernel)⟩
    mode_eq := rfl
    format_eq := rfl
    loaded_eq := toOption_eq_some_iff.1 (by decide +kernel)
    texts_eq := toOption_eq_some_iff.1 (by decide +kernel)
    output_eq := houtput
    noError := (Solidity.outputOf_yields _ _ _ houtput).2
    compiled_eq := hpath ▸ hcompiled
    hasBytecode := Solidity.selectContract_yields _ _ _ compiled hcompiled
    data_eq := hpath ▸ hdata }, rfl, rfl, rfl, hname, hlist⟩

/-- The analysis of the file logs in, submits the contract, asks once for the status and once for
the issues, and exits with zero. -/
theorem analyze_protocol_file :
    Command.ofArguments? ["analyze", "C.sol"] = some (.analyze "C.sol" none {}) ∧
      (runArguments fileRecording ["analyze", "C.sol"]).exitCode = 0 ∧
      (runArguments fileRecording ["analyze", "C.sol"]).progress.session.sent.map
        (fun q => (q.method, q.url)) = [
          (.post, "https://api.mythx.io/v1/auth/login"),
          (.post, "https://api.mythx.io/v1/analyses"),
          (.get, "https://api.mythx.io/v1/analyses/job"),
          (.get, "https://api.mythx.io/v1/analyses/job/issues")] ∧
      ∃ (p : Prepared fileRecording "C.sol" none {}) (job : Json) (turns : List Turn),
        p.Protocol job turns (runArguments fileRecording ["analyze", "C.sol"]) := by
  have h : Command.ofArguments? ["analyze", "C.sol"] = some (.analyze "C.sol" none {}) := by
    simp [Command.ofArguments?, Command.ofName?, Command.analysisOptions, Arguments.read,
      Arguments.looksLikeSwitch, Arguments.withPositional, Arguments.value?, Arguments.has,
      Keyed.lookup?]
  obtain ⟨p, hsettings, hformat, hsources, hname, hlist⟩ := exists_prepared_file
  have hsession : p.session = { token := none, replies := fileRecording.replies } := by
    rw [Prepared.session, hsettings]
    rfl
  have hurl : p.client.url = "https://api.mythx.io/v1" := by
    rw [Prepared.client, hsettings]
    decide +kernel
  obtain ⟨s₁, s₂, s₃, hsubmit, hquery, hissues, hsent⟩ := Service.exists_conversation
    (c := p.client) (s := p.session) (t := .str "token") (o := ⟨.finished, some "Finished"⟩)
    (submission p.data (.str p.settings.clientName) (.bool false)) (.str "job")
    (by rw [Prepared.client, hsettings]; rfl) rfl (by rw [hsession]) (by rw [hsession]; rfl)
    (by decide) rfl rfl rfl
  obtain ⟨findings, hfindings, htext⟩ := Returns.bind_iff.1 (show Returns
    ((Finding.ofReports fileReports).1 >>= fun findings => Format.render .text "/work"
      (Report.ofFindings findings [("/work/C.sol", .str "contract C \x7b\x7d")]
        ["/work/C.sol"]).1) by decide +kernel)
  have hcompiled : Returns (Terminal.marked "[green]✔[/green] Compiled contract C") := by
    decide +kernel
  obtain ⟨hexit, hends⟩ := analysis_goes_through p h rfl (by rw [hname]; exact hcompiled) hsubmit
    (by decide +kernel) hquery rfl hissues hfindings
    (Command.returns_reportText (by rw [Prepared.reports, hformat, hsources, hlist]; exact htext))
  refine ⟨h, hexit, ?_, (analyze_protocol _ h).resolve_left fun hfails => hfails.2 hexit⟩
  rw [hends, hsent, hsession]
  simp only [Service.Client.resource, hurl]
  decide +kernel

end ContractAudit
