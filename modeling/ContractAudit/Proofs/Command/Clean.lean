/-
  When a run tells that nothing was found.

  * `EndsIn turns payload`: the last answer of the service reads as the payload;
    `exists_fetched`: the request for the issues of a job ends in what it answers.
  * `Tells r format findings reports clean output`: the output ends with the clean line if no
    finding is readable, and else with the reports, of which there are some.  `Told` says so of what
    a run has read.
  * `Prepared.Protocol.told` and `tells_reportJob`: the run of an analysis or of a report that does
    not fail has told what it read.
  * `clean_iff_unreadable`: a batch has no reports iff none of its findings is readable, and a run
    that ends without failure prints the clean line iff none of those that the service sent is.

  A finding that is left out leaves nothing but a note, so the clean line does not mean that there
  was no finding (`unreadable_finding_vanishes`).
-/
import ContractAudit.Proofs.Command.Analysis
import ContractAudit.Proofs.Report.Skipping

namespace ContractAudit

/-! ## The issues of a job -/

namespace Service

/-- The last of the turns brought an answer that reads as the payload. -/
def EndsIn (turns : List Turn) (payload : Json) : Prop :=
  ∃ turn status body, turns.getLast? = some turn ∧ turn.reply = .answer status body ∧
    status < 400 ∧ Json.parse? body = some payload

/-- **The issues of a job are what the last answer reads as.** -/
theorem exists_fetched {c : Client} {s : Session} {job payload : Json}
    (h : ((c.issues job).runIn s).1 = .ok payload) :
    ∃ turns, Talks s turns ((c.issues job).runIn s).2 ∧ EndsIn turns payload := by
  obtain ⟨logins, hacquires, -⟩ := exists_acquires c s
  rw [Client.issues, runIn_ask] at h ⊢
  rcases htoken : c.token.runIn s with ⟨e | t, s₁⟩ <;> rw [htoken] at hacquires h
  · cases h
  · obtain ⟨status, body, hreply, hstatus, hparse⟩ := Request.result_eq_ok.1 h
    exact ⟨_, hacquires.heard.talks.append (.cons .nil), _, status, body, List.getLast?_concat,
      hreply, hstatus, hparse⟩

end Service

open Service (Talks EndsIn)

/-! ## What is printed in the end -/

/-- What a run tells of some findings at the end of its output: the clean line if no finding is
readable, and else the reports. -/
inductive Tells (r : Recording) (format : Format) (findings : List Finding) (reports : List Report)
    (clean : String) : String → Prop
  | clean {before : String} (h : ∀ f ∈ findings, f.isReadable = false) :
      Tells r format findings reports clean (before ++ clean)
  | found {before text : String} (h : ∃ f ∈ findings, f.isReadable = true) (hreports : reports ≠ [])
      (hrender : format.render r.directory reports = .ok text) :
      Tells r format findings reports clean (before ++ Terminal.echoed text)

section
variable {r : Recording} {format : Format} {findings : List Finding} {sources : Json.Members}
  {sourceList : List String} {clean before text : String}

theorem Tells.of_reportText
    (h : Command.reportText r format (Report.ofFindings findings sources sourceList).1 clean =
      .ok text) :
    Tells r format findings (Report.ofFindings findings sources sourceList).1 clean
      (before ++ text) := by
  rw [Command.reportText] at h
  split at h
  · next hempty =>
    cases h
    exact .clean (Report.ofFindings_eq_nil_iff.1 (List.isEmpty_iff.1 hempty))
  · next hempty =>
    have hreports := mt List.isEmpty_iff.2 hempty
    cases hrender : format.render r.directory (Report.ofFindings findings sources sourceList).1 with
    | error d => rw [hrender] at h; cases h
    | ok rendered =>
      rw [hrender] at h
      cases h
      refine .found ?_ hreports hrender
      simpa using mt Report.ofFindings_eq_nil_iff.2 hreports

end

/-- What a run has told that goes on from the session `s`: the last answer holds some findings, and
the end of the output tells of them. -/
def Told (r : Recording) (s : Service.Session) (format : Format)
    (reports : List Finding → List Report) (clean : String) (progress : Progress) : Prop :=
  ∃ turns payload findings, Talks s turns progress.session ∧ EndsIn turns payload ∧
    (Finding.ofReports payload).1 = .ok findings ∧
    Tells r format findings (reports findings) clean progress.output

/-! ## Runs -/

/-- A run that follows the protocol of an analysis and does not fail has told what it read. -/
theorem Prepared.Protocol.told {r : Recording} {target : String} {contract : Option String}
    {o : AnalysisOptions} {p : Prepared r target contract o} {job : Json}
    {turns : List Service.Turn} {outcome : Outcome} (h : p.Protocol job turns outcome)
    (hcode : outcome.exitCode = 0) :
    Told r p.session p.format p.reports
      (Report.cleanLine (Path.resolved r.directory target) (some p.compiled.name))
      outcome.progress := by
  obtain ⟨turn, status, body, payload, hlast, -, hreply, hstatus, hparse, hreported⟩ :=
    h.reported hcode
  obtain ⟨findings, text, before, hfindings, htext, houtput⟩ := hreported
  exact ⟨turns, payload, findings, h.talks, ⟨turn, status, body, hlast, hreply, hstatus, hparse⟩,
    hfindings, houtput ▸ .of_reportText htext⟩

/-- The session with the key of some settings, before any request. -/
def Settings.session (settings : Settings) (r : Recording) : Service.Session :=
  { token := settings.apiKey.map .str, replies := r.replies }

/-- The reports of findings whose sources are not known. -/
def Report.withoutSources (findings : List Finding) : List Report :=
  (Report.ofFindings findings [] []).1

/-- What the run of a report has told: valid settings, a known format, and the findings. -/
def ToldOfJob (r : Recording) (job format : String) (progress : Progress) : Prop :=
  ∃ settings f, Settings.load r.environment = .ok settings ∧ Format.ofName format = .ok f ∧
    Told r (settings.session r) f Report.withoutSources
      (Report.cleanLine ("analysis " ++ job) none) progress

open Command Step in
theorem Command.tells_reportJob (r : Recording) (job format : String) {progress : Progress}
    (hstart : progress.session = { token := none, replies := r.replies }) :
    (reportJob r job format).Holds progress (fun _ => ToldOfJob r job format)
      fun e _ => e ≠ .exit 0 := by
  rw [reportJob]
  refine (quiet_orRefuse _ _).bind_holds hstart (fun f p₁ hformat hp₁ => ?_) fun _ _ he _ => he
  refine (quiet_settings r).bind_holds hp₁ (fun settings p₂ hsettings hp₂ => ?_)
    fun _ _ he _ => he
  refine .bind (holds_signIn ?_)
  refine .bind (holds_ask (fun payload p₃ hpayload hp₃ => ?_) fun _ _ _ he _ _ => he)
  refine (quiet_lift _).bind_holds hp₃ (fun findings p₄ hfindings hp₄ => ?_)
    fun _ _ he _ => he
  refine holds_printReports (fun text htext => ?_) fun _ _ he _ => he
  obtain ⟨turns, htalks, hends⟩ := Service.exists_fetched hpayload
  rw [← hp₄, hp₂] at htalks
  exact ⟨settings, f, hsettings, hformat, turns, payload, findings, htalks, hends, hfindings,
    .of_reportText htext⟩

/-- **Nothing is reported iff no finding is readable.** A batch without reports has a note for each
finding. A run of an analysis or a report that does not fail tells of the findings in the last
answer of the service: it prints the clean line if none of them is readable, and else some
reports. -/
theorem clean_iff_unreadable :
    (∀ (findings : List Finding) (sources : Json.Members) (sourceList : List String),
      ∃ reports log,
        Report.ofFindingsIn findings (.obj sources) (.texts sourceList) = (.ok reports, log) ∧
        (reports = [] ↔ ∀ f ∈ findings, f.isReadable = false) ∧
        (reports = [] → log.length = findings.length)) ∧
    (∀ (r : Recording) (args : List String) (target : String) (contract : Option String)
        (o : AnalysisOptions),
      Command.ofArguments? args = some (.analyze target contract o) →
      (runArguments r args).exitCode = 0 →
      ∃ p : Prepared r target contract o, Told r p.session p.format p.reports
        (Report.cleanLine (Path.resolved r.directory target) (some p.compiled.name))
        (runArguments r args).progress) ∧
    ∀ (r : Recording) (args : List String) (job format : String),
      Command.ofArguments? args = some (.report job format) →
      (runArguments r args).exitCode = 0 →
      ToldOfJob r job format (runArguments r args).progress := by
  refine ⟨fun findings sources sourceList => ?_, fun r args target contract o h hcode => ?_,
    fun r args job format h hcode => ?_⟩
  · obtain ⟨reports, -, hr⟩ := Report.ofFindings_eq sources sourceList findings
    have hnil : (Report.ofFindings findings sources sourceList).1 = [] ↔
        ∀ f ∈ findings, f.isReadable = false := Report.ofFindings_eq_nil_iff
    rw [hr] at hnil
    refine ⟨reports, _, by rw [ofFindingsIn_texts, hr], hnil, fun hreports => ?_⟩
    have hall : findings.filter (fun f => !f.isReadable) = findings := by
      rw [List.filter_eq_self]
      intro f hf
      simp [hnil.1 hreports f hf]
    rw [length_notes, hall]
  · have hends := runArguments_ends h (Prepared.Accounted r target contract o)
      (Command.conforms_analyzeFile r target contract o rfl)
    rcases hends with ⟨-, he⟩ | ⟨p, job, turns, hprotocol⟩
    · exact absurd hcode (Prepared.exitCode_ne_zero he _)
    · exact ⟨p, hprotocol.told hcode⟩
  · have hends := runArguments_ends h
      (fun e progress => e ≠ .exit 0 ∨ ToldOfJob r job format progress)
      ((Command.tells_reportJob r job format rfl).imp (fun _ _ => .inr) fun _ _ => .inl)
    exact hends.resolve_left fun he => Prepared.exitCode_ne_zero he _ hcode

/-- The only finding of a batch has a negative offset: there are no reports, though there is a
finding. -/
theorem unreadable_finding_vanishes :
    let lost : Finding :=
      { swcId := some "SWC-107"
        description := { head := "Reentrancy" }
        locations := [{ sourceMap := "-4:8:0", sourceType := "solidity-file",
                        sourceFormat := "text", sourceList := ["C.sol"] }] }
    let sources : Json.Members := [("C.sol", .str "contract C {}\n")]
    (Report.ofFindingsIn [lost] (.obj sources) (.texts [])).1 = .ok [] ∧ [lost] ≠ [] := by
  intro lost sources
  have hlost : ∀ f ∈ [lost], f.isReadable = false := List.forall_mem_singleton.2 rfl
  rw [ofFindingsIn_texts, Report.ofFindings_eq_nil_iff.2 hlost]
  exact ⟨rfl, List.cons_ne_nil _ _⟩

/-- A report prints the clean line, though the service sent a finding. -/
theorem report_of_unreadable_finding :
    let body := "[\x7b\"issues\": [\x7b\"locations\": [\x7b\"sourceMap\": \"-4:8:0\", " ++
      "\"sourceType\": \"solidity-file\", \"sourceFormat\": \"text\"\x7d]\x7d]\x7d]"
    let r : Recording :=
      { directory := "/work", environment := [("MYTHX_API_KEY", .str "key")]
        files := { directory := "/work", entries := [] }, replies := [.answer 200 body] }
    let outcome := runArguments r ["report", "abcd-1234"]
    Command.ofArguments? ["report", "abcd-1234"] = some (.report "abcd-1234" "text") ∧
    outcome.exitCode = 0 ∧ ToldOfJob r "abcd-1234" "text" outcome.progress ∧
    outcome.progress.output = "✔ No errors/warnings found in analysis abcd-1234\n" := by
  intro body r outcome
  have h : Command.ofArguments? ["report", "abcd-1234"] = some (.report "abcd-1234" "text") := by
    simp [Command.ofArguments?, Command.ofName?, Arguments.read, Arguments.looksLikeSwitch,
      Arguments.withPositional, Arguments.value?, Keyed.lookup?]
  have hcode : outcome.exitCode = 0 := by decide +kernel
  exact ⟨h, hcode, clean_iff_unreadable.2.2 r _ _ _ h hcode, by decide +kernel⟩

end ContractAudit
