/-
  The errors that end a command.

  * `CommandError`: an error that is provided for, with the message and the details that are
    printed.
  * `Raises x p e p'`: from the progress `p` the step `x` comes upon the error `e`, and has made the
    progress `p'` by then.  The run ends there, as `e.ends p'` says (`Raises.runFrom_eq`).
  * `Accounts x`: the step ends a run with the exit code 1 only where it comes upon an error.
    `accounts_…`: one rule for each kind of step.
  * `error_message_shows`: which messages are shown as they are, and what is shown of the others.
    Messages are printed as markup, so that a tag in a message does not show
    (`bracketed_message_is_changed`).
-/
import ContractAudit.Proofs.Command.Steps
import ContractAudit.Proofs.Settings.Address
import ContractAudit.Proofs.Terminal.Tags

namespace ContractAudit

/-- An error that is provided for. -/
inductive CommandError where
  | settings (e : SettingsError)
  | format (e : UnknownFormat)
  | compile (e : Solidity.CompileError)
  | service (e : Service.Error)
  /-- The wait for the job came to no end. -/
  | wait (e : Job.Failure (Fault Service.Error) Job.Time)
  /-- The job ended, but in an error. -/
  | job (job : Json) (status : String)

namespace CommandError

/-- The message of an error. -/
def message : CommandError → String
  | settings e => e.message
  | format e => e.message
  | compile e => e.message
  | service e => e.message
  | wait e => e.message?.getD ""
  | job id status => "Analysis " ++ id.display ++ " failed with status: " ++ status

/-- What is printed after the message. -/
def details : CommandError → List Json
  | compile e => e.details.tail
  | _ => []

/-- The markup of the message. -/
def markup (e : CommandError) : String :=
  "[red]✖ " ++ e.message ++ "[/red]"

/-- How a run ends that comes upon the error after some progress. -/
def ends (e : CommandError) (p : Progress) : Ending × Progress :=
  match Terminal.marked e.markup with
  | .ok text =>
    (.exit 1, { p with
      output := p.output ++ text ++ String.join (e.details.map Step.detailLines) })
  | .error d => (.broken d, p)

end CommandError

namespace Step

/-! ## Coming upon an error -/

/-- The step comes upon an error: at once, in its first part, or after it. -/
inductive Raises : {α : Type} → Step α → Progress → CommandError → Progress → Prop
  | refuse {α : Type} (e : CommandError) (p : Progress) :
      Raises (refuse e.message e.details : Step α) p e p
  | first {α β : Type} {x : Step α} (f : α → Step β) {p p' : Progress} {e : CommandError}
      (h : Raises x p e p') : Raises (x >>= f) p e p'
  | later {α β : Type} {x : Step α} {f : α → Step β} {a : α} {p p₁ p' : Progress}
      {e : CommandError} (hx : x.runFrom p = (.ok a, p₁)) (h : Raises (f a) p₁ e p') :
      Raises (x >>= f) p e p'

section
variable {α β : Type} {p p' : Progress} {e : CommandError}

theorem runFrom_refuse (e : CommandError) (p : Progress) :
    (refuse e.message e.details : Step α).runFrom p = (.error (e.ends p).1, (e.ends p).2) := by
  rw [CommandError.ends]
  have hmarkup : (printMarkup e.markup).runFrom p =
      match Terminal.marked e.markup with
      | .ok text => (.ok (), { p with output := p.output ++ text })
      | .error d => (.error (.broken d), p) := by
    rw [printMarkup, runFrom_bind]
    cases Terminal.marked e.markup <;> rfl
  have hrefuse : (refuse e.message e.details : Step α) =
      printMarkup e.markup >>= fun _ => print (String.join (e.details.map detailLines)) >>=
        fun _ => throw (.exit 1) := rfl
  rw [hrefuse, runFrom_bind, hmarkup]
  cases Terminal.marked e.markup <;> rfl

/-- **A step that comes upon an error ends the run.** -/
theorem Raises.runFrom_eq {x : Step α} (h : Raises x p e p') :
    x.runFrom p = (.error (e.ends p').1, (e.ends p').2) := by
  induction h with
  | refuse e p => exact runFrom_refuse e p
  | first f _ ih => rw [runFrom_bind, ih]
  | later hx _ ih =>
    rw [runFrom_bind, hx]
    exact ih

theorem Raises.when {x : Step Unit} {k : Step β} {b : Prop} [Decidable b] {p₁ : Progress}
    (hx : b → x.runFrom p = (.ok (), p₁)) (hskipped : ¬ b → p = p₁) (hk : k.Raises p₁ e p') :
    Raises (if b then x >>= fun _ => k else k) p e p' := by
  split
  · next hb => exact .later (hx hb) hk
  · next hb => exact hskipped hb ▸ hk

/-! ## Exit codes -/

/-- The step ends a run with the exit code 1 only where it comes upon an error. -/
def Accounts (x : Step α) : Prop :=
  ∀ p p', x.runFrom p = (.error (.exit 1), p') → ∃ e p₁, Raises x p e p₁

namespace Accounts

variable {x : Step α} {f : α → Step β}

/-- **Steps in a row.** -/
theorem bind (hx : Accounts x) (hf : ∀ a, Accounts (f a)) : Accounts (x >>= f) := by
  intro p p' hrun
  rw [runFrom_bind] at hrun
  rcases hfirst : x.runFrom p with ⟨e | a, p₁⟩ <;> rw [hfirst] at hrun
  · cases hrun
    obtain ⟨e, p₂, h⟩ := hx p _ hfirst
    exact ⟨e, p₂, h.first f⟩
  · obtain ⟨e, p₂, h⟩ := hf a p₁ p' hrun
    exact ⟨e, p₂, h.later hfirst⟩

theorem when {x : Step Unit} {k : Step β} {b : Prop} [Decidable b] (hx : Accounts x)
    (hk : Accounts k) : Accounts (if b then x >>= fun _ => k else k) := by
  split
  · exact hx.bind fun _ => hk
  · exact hk

end Accounts

theorem accounts_of_ne {x : Step α} (h : ∀ p, (x.runFrom p).1 ≠ .error (.exit 1)) :
    Accounts x :=
  fun p _ hrun => absurd (congrArg Prod.fst hrun) (h p)

theorem accounts_pure (a : α) : Accounts (pure a) :=
  accounts_of_ne fun _ => nofun

theorem accounts_throw {ending : Ending} (h : ending ≠ .exit 1) :
    Accounts (throw ending : Step α) :=
  accounts_of_ne fun _ hrun => h (Except.error.inj hrun)

theorem accounts_get : Accounts (get : Step Progress) :=
  accounts_of_ne fun _ => nofun

theorem accounts_set (p : Progress) : Accounts (set p : Step Unit) :=
  accounts_of_ne fun _ => nofun

theorem accounts_modify (f : Progress → Progress) : Accounts (modify f : Step Unit) :=
  accounts_of_ne fun _ => nofun

theorem accounts_lift (x : Except Defect α) : Accounts (lift x) := by
  cases x with
  | ok a => exact accounts_pure a
  | error d => exact accounts_throw (broken_ne_exit d 1)

theorem accounts_print (s : String) : Accounts (print s) :=
  accounts_modify _

theorem accounts_printMarkup (s : String) : Accounts (printMarkup s) :=
  (accounts_lift _).bind fun _ => accounts_print _

theorem accounts_refuse (e : CommandError) : Accounts (refuse e.message e.details : Step α) :=
  fun p _ _ => ⟨e, p, .refuse e p⟩

theorem accounts_orRefuse {ε : Type} (error : ε → CommandError) {message : ε → String}
    (hmessage : ∀ e, (error e).message = message e) (hdetails : ∀ e, (error e).details = [])
    (x : Except ε α) : Accounts (orRefuse message x) := by
  cases x with
  | ok a => exact accounts_pure a
  | error e =>
    rw [orRefuse, ← hmessage, ← hdetails e]
    exact accounts_refuse _

theorem accounts_orRefuseFault {ε : Type} (error : ε → CommandError) {message : ε → String}
    {details : ε → List Json} (hmessage : ∀ e, (error e).message = message e)
    (hdetails : ∀ e, (error e).details = details e) (x : Except (Fault ε) α) :
    Accounts (orRefuseFault message details x) := by
  cases x with
  | ok a => exact accounts_pure a
  | error fault =>
    cases fault with
    | error e =>
      rw [orRefuseFault, ← hmessage, ← hdetails e]
      exact accounts_refuse _
    | defect d => exact accounts_throw (broken_ne_exit d 1)

theorem accounts_compiling (x : Except (Fault Solidity.CompileError) α) :
    Accounts (compiling x) :=
  accounts_orRefuseFault .compile (fun _ => rfl) (fun _ => rfl) x

theorem accounts_settings (r : Recording) : Accounts (settings r) :=
  accounts_orRefuseFault .settings (fun _ => rfl) (fun _ => rfl) _

theorem accounts_ask (x : Service.Exchange α) : Accounts (ask x Service.Error.message) :=
  accounts_get.bind fun _ => (accounts_set _).bind fun _ =>
    accounts_orRefuseFault .service (fun _ => rfl) (fun _ => rfl) _

theorem accounts_forIn {l : List α} {init : β} {f : α → β → Step (ForInStep β)}
    (h : ∀ a b, Accounts (f a b)) : Accounts (forIn l init f) := by
  induction l generalizing init with
  | nil => exact accounts_pure init
  | cons a l ih =>
    rw [List.forIn_cons]
    refine (h a init).bind fun next => ?_
    cases next with
    | done b => exact accounts_pure b
    | yield b => exact ih

theorem accounts_forM {l : List α} {f : α → Step Unit} (h : ∀ a, Accounts (f a)) :
    Accounts (l.forM f) := by
  induction l with
  | nil => exact accounts_pure ()
  | cons a l ih => exact (h a).bind fun _ => ih

end

end Step

/-! ## The steps of the commands -/

namespace Command

open Step

theorem accounts_signIn (s : Settings) : Accounts (signIn s) :=
  (accounts_modify _).bind fun _ => accounts_pure _

theorem accounts_printBody (title : String) (body : Json) : Accounts (printBody title body) :=
  accounts_print _

theorem accounts_printReports (r : Recording) (f : Format) (reports : List Report)
    (clean : String) : Accounts (printReports r f reports clean) := by
  rw [printReports]
  split
  · exact accounts_print _
  · exact (accounts_lift _).bind fun _ => accounts_print _

theorem accounts_compile (r : Recording) (command : String) (sources : Json.Members) :
    Accounts (compile r command sources) :=
  (accounts_modify _).bind fun _ => accounts_compiling _

theorem accounts_targetFile (r : Recording) (target : String) :
    Accounts (targetFile r target) := by
  rw [targetFile]
  dsimp only
  refine (accounts_throw (broken_ne_exit _ 1)).when ?_
  split
  · exact accounts_pure _
  · exact accounts_throw (by simp)

theorem accounts_awaitJob (c : Service.Client) (job : Json) (schedule : Job.Schedule) :
    Accounts (awaitJob c job schedule) := by
  rw [awaitJob]
  refine accounts_get.bind fun p => (accounts_set _).bind fun _ => ?_
  split
  · exact accounts_pure _
  · exact accounts_refuse (.service _)
  · exact accounts_throw (broken_ne_exit _ 1)
  · exact accounts_throw (broken_ne_exit _ 1)
  · exact accounts_refuse (.wait _)

theorem accounts_printAnalysis (analysis : Json) : Accounts (printAnalysis analysis) := by
  rw [printAnalysis]
  refine (accounts_lift _).bind fun job => (accounts_print _).bind fun _ => ?_
  refine (accounts_forIn fun field _ => ?_).bind fun _ => ?_
  · exact (accounts_lift _).bind fun _ => (accounts_print _).bind fun _ => accounts_pure _
  · split
    · exact accounts_print _
    · exact accounts_pure _

theorem accounts_analyzeFile (r : Recording) (target : String) (contract : Option String)
    (o : AnalysisOptions) : Accounts (analyzeFile r target contract o) := by
  unfold analyzeFile
  refine (accounts_targetFile r target).bind fun path => ?_
  refine (accounts_orRefuseFault .settings (fun _ => rfl) (fun _ => rfl) _).bind fun mode => ?_
  refine (accounts_orRefuse .format (fun _ => rfl) (fun _ => rfl) _).bind fun format => ?_
  refine (accounts_settings r).bind fun loaded => ?_
  dsimp only
  refine (accounts_printMarkup _).when ?_
  refine (accounts_compiling _).bind fun texts => ?_
  refine (accounts_compile r _ _).bind fun output => ?_
  refine (accounts_compiling _).bind fun compiled => ?_
  refine (accounts_printMarkup _).bind fun _ => ?_
  refine (accounts_lift _).bind fun data => ?_
  refine (accounts_printBody _ _).when ?_
  refine (accounts_signIn _).bind fun client => ?_
  refine (accounts_ask _).bind fun job => ?_
  refine (accounts_printMarkup _).bind fun _ => ?_
  refine (accounts_awaitJob _ _ _).bind fun state => ?_
  refine (accounts_refuse (.job _ _)).when ?_
  refine (accounts_ask _).bind fun payload => ?_
  refine (accounts_printBody _ _).when ?_
  refine (accounts_lift _).bind fun findings => ?_
  exact accounts_printReports _ _ _ _

theorem accounts_reportJob (r : Recording) (job format : String) :
    Accounts (reportJob r job format) := by
  rw [reportJob]
  refine (accounts_orRefuse .format (fun _ => rfl) (fun _ => rfl) _).bind fun f => ?_
  refine (accounts_settings r).bind fun settings => (accounts_signIn _).bind fun client => ?_
  refine (accounts_ask _).bind fun payload => (accounts_lift _).bind fun findings => ?_
  exact accounts_printReports _ _ _ _

theorem accounts_statusOf (r : Recording) (job : String) : Accounts (statusOf r job) := by
  rw [statusOf]
  refine (accounts_settings r).bind fun settings => (accounts_signIn _).bind fun client => ?_
  refine (accounts_ask _).bind fun analysis => (accounts_printMarkup _).bind fun _ => ?_
  exact accounts_printAnalysis analysis

theorem accounts_listAnalyses (r : Recording) : Accounts (listAnalyses r) := by
  rw [listAnalyses]
  refine (accounts_settings r).bind fun settings => (accounts_signIn _).bind fun client => ?_
  refine (accounts_ask _).bind fun body => (accounts_lift _).bind fun listed => ?_
  refine (accounts_lift _).bind fun analyses => (accounts_printMarkup _).bind fun _ => ?_
  exact accounts_forM accounts_printAnalysis

/-- The question for the versions puts other words before its errors. -/
theorem accounts_steps (r : Recording) {command : Command} (h : command ≠ .apiVersion) :
    Accounts (command.steps r) := by
  cases command with
  | analyze target contract o => exact accounts_analyzeFile r target contract o
  | report job format => exact accounts_reportJob r job format
  | status job => exact accounts_statusOf r job
  | list => exact accounts_listAnalyses r
  | apiVersion => exact absurd rfl h
  | version => exact accounts_print _

end Command

/-! ## Runs -/

/-- What a run has done before its first step. -/
def Recording.start (r : Recording) : Progress :=
  { session := { token := none, replies := r.replies } }

section
variable {r : Recording} {args : List String} {command : Command} {e : CommandError}
  {p : Progress}

theorem Step.Raises.runArguments_eq (h : (command.steps r).Raises r.start e p)
    (hargs : Command.ofArguments? args = some command) :
    runArguments r args = ⟨(e.ends p).1, (e.ends p).2⟩ := by
  have hrun : (command.steps r).run.run { session := { token := none, replies := r.replies } } =
      (.error (e.ends p).1, (e.ends p).2) := h.runFrom_eq
  rw [runArguments, hargs]
  dsimp only
  rw [hrun]

/-- A run ends with the exit code 1 iff its command comes upon an error of which the message can be
shown. -/
theorem ending_eq_exit_one_iff (h : Command.ofArguments? args = some command)
    (hcommand : command ≠ .apiVersion) :
    (runArguments r args).ending = .exit 1 ↔
      ∃ e p, (command.steps r).Raises r.start e p ∧ Returns (Terminal.marked e.markup) := by
  constructor
  · intro hexit
    have hends := runArguments_ends h
      (fun ending _ => ending = .exit 1 → ∃ e p, (command.steps r).Raises r.start e p)
      ⟨fun _ _ _ => nofun, fun ending p' hrun hexit => by
        subst hexit
        exact Command.accounts_steps r hcommand _ _ hrun⟩
    obtain ⟨e, p, hraises⟩ := hends hexit
    refine ⟨e, p, hraises, ?_⟩
    rw [hraises.runArguments_eq h, CommandError.ends] at hexit
    cases hmarked : Terminal.marked e.markup with
    | ok text => exact .ok text
    | error d =>
      rw [hmarked] at hexit
      cases hexit
  · rintro ⟨e, p, hraises, text, hmarked⟩
    rw [hraises.runArguments_eq h, CommandError.ends, hmarked]

theorem CommandError.exitCode_ends (e : CommandError) (p : Progress) :
    Outcome.exitCode ⟨(e.ends p).1, (e.ends p).2⟩ = 1 := by
  rw [ends]
  cases Terminal.marked e.markup <;> rfl

theorem CommandError.markup_eq (e : CommandError) :
    e.markup = "[red]" ++ ("✖ " ++ e.message) ++ "[/red]" := by
  rw [markup, ← String.append_assoc]
  rfl

theorem CommandError.ends_of_marked {text : String} (h : Terminal.marked e.markup = .ok text) :
    e.ends p = (.exit 1, { p with
      output := p.output ++ text ++ String.join (e.details.map Step.detailLines) }) := by
  rw [ends, h]

theorem CommandError.ends_of_not_returns (h : ¬ Returns (Terminal.marked e.markup)) :
    (e.ends p).2 = p := by
  rw [ends]
  cases hmarked : Terminal.marked e.markup with
  | ok text => exact absurd ⟨text, hmarked⟩ h
  | error d => rfl

theorem CommandError.isUnmarked (h : Terminal.IsUnmarked e.message) :
    Terminal.IsUnmarked ("✖ " ++ e.message) :=
  h.prepend (by decide) (by decide) (Terminal.withEmoji_append (by decide) _)

theorem CommandError.isPrintable (h : Terminal.IsPrintable e.message) :
    Terminal.IsPrintable ("✖ " ++ e.message) :=
  .append (by decide) h

theorem CommandError.isBare (h : Terminal.IsBare e.message.toList) :
    Terminal.IsBare ("✖ " ++ e.message).toList := by
  rw [String.toList_append]
  refine ⟨?_, fun hcode => h.noCode (hcode.of_append (by decide))⟩
  simp [h.noSlash]

/-- A message is shown as it is iff the console shows it as it is. -/
theorem Step.Raises.output_eq_iff (h : (command.steps r).Raises r.start e p)
    (hargs : Command.ofArguments? args = some command) :
    (runArguments r args).progress.output =
        p.output ++ ("✖ " ++ e.message ++ "\n") ++ String.join (e.details.map Step.detailLines) ↔
      Terminal.marked e.markup = .ok ("✖ " ++ e.message ++ "\n") := by
  rw [h.runArguments_eq hargs]
  refine ⟨fun houtput => ?_, fun hmarked => by rw [CommandError.ends_of_marked hmarked]⟩
  cases hmarked : Terminal.marked e.markup with
  | ok text =>
    rw [CommandError.ends_of_marked hmarked] at houtput
    rw [(String.append_right_inj _).1 ((String.append_left_inj _).1 houtput)]
  | error d =>
    have hnone : ¬ Returns (Terminal.marked e.markup) := by
      rw [hmarked]
      exact Returns.not_error d
    rw [CommandError.ends_of_not_returns hnone] at houtput
    have hlength := congrArg String.length houtput
    have hcross : "✖ ".length = 2 := rfl
    simp only [String.length_append, hcross] at hlength
    omega

theorem Step.Raises.output_eq (h : (command.steps r).Raises r.start e p)
    (hargs : Command.ofArguments? args = some command) (hunmarked : Terminal.IsUnmarked e.message)
    (hprintable : Terminal.IsPrintable e.message) :
    (runArguments r args).progress.output =
      p.output ++ ("✖ " ++ e.message ++ "\n") ++ String.join (e.details.map Step.detailLines) := by
  have hmarked := Terminal.marked_red (CommandError.isUnmarked hunmarked)
  rw [← e.markup_eq, Terminal.unwrapped_of_isPrintable (CommandError.isPrintable hprintable)]
    at hmarked
  exact (h.output_eq_iff hargs).2 hmarked

end

theorem Command.ofArguments?_list : Command.ofArguments? ["list"] = some .list := by
  simp [ofArguments?, ofName?, ofName?.withoutArguments, Arguments.read, Arguments.looksLikeSwitch]

theorem Command.raises_badUrl {url : String} (hset : Text.trimmed url = url) (hsome : url ≠ "")
    (hweb : Settings.isWebAddress url = false) {r : Recording}
    (henv : r.environment = [("MYTHX_API_URL", .str url)]) :
    (Command.list.steps r).Raises r.start (.settings (.badUrl url)) r.start := by
  have hload : Settings.load r.environment = failWith (.badUrl url) := by
    rw [henv, Settings.load_singleton (by rwa [hset]), hset, hweb]
    rfl
  have hrefuse : (Step.settings r).Raises r.start (.settings (.badUrl url)) r.start := by
    rw [Step.settings, hload]
    exact .refuse (.settings (.badUrl url)) _
  exact .first _ hrefuse

/-- **How the errors of a command are shown.** A run ends with the exit code 1 iff its command comes
upon an error of which the message can be shown. A printable message that markup leaves alone is
shown as it is. A message without backslashes and codes of emoji is shown without its tags, so that
it is shown as it is iff it has none. -/
theorem error_message_shows {r : Recording} {args : List String} {command : Command}
    (h : Command.ofArguments? args = some command) (hcommand : command ≠ .apiVersion) :
    ((runArguments r args).ending = .exit 1 ↔
      ∃ e p, (command.steps r).Raises r.start e p ∧ Returns (Terminal.marked e.markup)) ∧
    ∀ e p, (command.steps r).Raises r.start e p →
      let output := (runArguments r args).progress.output
      let details := String.join (e.details.map Step.detailLines)
      (runArguments r args).exitCode = 1 ∧
      (¬ Returns (Terminal.marked e.markup) → output = p.output) ∧
      (Terminal.IsUnmarked e.message → Terminal.IsPrintable e.message →
        output = p.output ++ ("✖ " ++ e.message ++ "\n") ++ details) ∧
      (Terminal.IsBare e.message.toList →
        (Returns (Terminal.marked e.markup) → output = p.output ++
          Terminal.unwrapped ("✖ " ++ String.ofList (Terminal.untagged e.message.toList)) ++
          details) ∧
        (Terminal.IsPrintable e.message →
          (output = p.output ++ ("✖ " ++ e.message ++ "\n") ++ details ↔
            Terminal.hasTag e.message.toList = false))) := by
  refine ⟨ending_eq_exit_one_iff h hcommand, fun e p hraises => ⟨?_, ?_, ?_, ?_⟩⟩
  · rw [hraises.runArguments_eq h]
    exact e.exitCode_ends p
  · intro hmarked
    rw [hraises.runArguments_eq h, CommandError.ends_of_not_returns hmarked]
  · exact hraises.output_eq h
  · intro hbare
    have hbare' := CommandError.isBare hbare
    refine ⟨?_, fun hprintable => ?_⟩
    · rintro ⟨text, hmarked⟩
      have htext := hbare'.eq_of_marked (e.markup_eq ▸ hmarked)
      rw [String.toList_append, Terminal.untagged_append (by decide), String.ofList_append,
        String.ofList_toList] at htext
      rw [hraises.runArguments_eq h, CommandError.ends_of_marked hmarked, htext]
    · rw [hraises.output_eq_iff h, e.markup_eq,
        hbare'.marked_eq_iff (CommandError.isPrintable hprintable), String.toList_append,
        Terminal.hasTag_append (by decide)]

/-- An address without brackets is shown as it is. -/
theorem bad_address_is_shown :
    let r : Recording :=
      { directory := "/", environment := [("MYTHX_API_URL", .str "localhost")]
        files := { entries := [] } }
    let e : CommandError := .settings (.badUrl "localhost")
    let outcome := runArguments r ["list"]
    Command.ofArguments? ["list"] = some .list ∧
    (Command.list.steps r).Raises r.start e r.start ∧
    Terminal.IsUnmarked e.message ∧ Terminal.IsPrintable e.message ∧
    Terminal.IsBare e.message.toList ∧ Returns (Terminal.marked e.markup) ∧
    outcome.ending = .exit 1 ∧ outcome.exitCode = 1 ∧
    outcome.progress.output = "✖ MYTHX_API_URL must be an http(s) URL, got: localhost\n" ∧
    Terminal.hasTag e.message.toList = false := by
  intro r e outcome
  have hraises : (Command.list.steps r).Raises r.start e r.start :=
    Command.raises_badUrl (by decide +kernel) (by decide) (by decide +kernel) rfl
  have hbare : Terminal.IsBare e.message.toList :=
    ⟨by decide +kernel, fun hcode => absurd hcode.two_le_count (by decide +kernel)⟩
  have htag : Terminal.hasTag e.message.toList = false := by decide +kernel
  have hprintable : Terminal.IsPrintable e.message := by decide +kernel
  have hunmarked : Terminal.IsUnmarked e.message := hbare.isUnmarked htag
  have hreturns : Returns (Terminal.marked e.markup) := by
    rw [e.markup_eq, Terminal.marked_red (CommandError.isUnmarked hunmarked)]
    exact .ok _
  obtain ⟨hending, hshown⟩ := error_message_shows (r := r) Command.ofArguments?_list (by simp)
  obtain ⟨hexit, -, houtput, hiff⟩ := hshown e r.start hraises
  have houtput := houtput hunmarked hprintable
  have hline : r.start.output ++ ("✖ " ++ e.message ++ "\n") ++
      String.join (e.details.map Step.detailLines) =
        "✖ MYTHX_API_URL must be an http(s) URL, got: localhost\n" := by
    decide +kernel
  exact ⟨Command.ofArguments?_list, hraises, hunmarked, hprintable, hbare, hreturns,
    hending.2 ⟨e, r.start, hraises, hreturns⟩, hexit, houtput.trans hline,
    ((hiff hbare).2 hprintable).1 houtput⟩

/-- What stands in brackets is taken for a tag. -/
theorem bracketed_message_is_changed :
    let r : Recording :=
      { directory := "/", environment := [("MYTHX_API_URL", .str "[host]:8080")]
        files := { entries := [] } }
    let e : CommandError := .settings (.badUrl "[host]:8080")
    let outcome := runArguments r ["list"]
    (Command.list.steps r).Raises r.start e r.start ∧
    outcome.progress.output = "✖ MYTHX_API_URL must be an http(s) URL, got: :8080\n" ∧
    ¬ ("✖ " ++ e.message).toList <:+: outcome.progress.output.toList := by
  intro r e outcome
  have hraises : (Command.list.steps r).Raises r.start e r.start :=
    Command.raises_badUrl (by decide +kernel) (by decide) (by decide +kernel) rfl
  have hmarked : Terminal.marked e.markup =
      .ok "✖ MYTHX_API_URL must be an http(s) URL, got: :8080\n" :=
    toOption_eq_some_iff.1 (by decide +kernel)
  have houtput : outcome.progress.output =
      "✖ MYTHX_API_URL must be an http(s) URL, got: :8080\n" := by
    have hends := congrArg (·.progress.output) (hraises.runArguments_eq Command.ofArguments?_list)
    rw [CommandError.ends_of_marked hmarked] at hends
    simpa [Recording.start, e, CommandError.details] using hends
  have hbracket : '[' ∈ ("✖ " ++ e.message).toList := by decide +kernel
  refine ⟨hraises, houtput, fun hcontained => ?_⟩
  rw [houtput] at hcontained
  exact absurd (hcontained.subset hbracket) (by decide +kernel)

end ContractAudit
