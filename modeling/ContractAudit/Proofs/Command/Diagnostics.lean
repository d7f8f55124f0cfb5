/-
  What an analysis shows of the errors of the compiler.

  * `Compiling`: a run of an analysis gets as far as the compiler.  If this finds no contract to
    analyse, the run comes upon its error (`Compiling.raises`).
  * `analyze_shows_diagnostics`: every error that the compiler lists stands in the output, if markup
    leaves it alone.  What the compiler says instead of an answer does not
    (`diagnostics_without_answer_are_withheld`).
-/
import ContractAudit.Proofs.Command.Errors
import ContractAudit.Proofs.Json.RoundTrip
import ContractAudit.Proofs.Text.Blank
import ContractAudit.Proofs.Text.Numeral

namespace ContractAudit

open Step Terminal

theorem infix_join {s : String} {l : List String} (h : s ∈ l) :
    s.toList <:+: (String.join l).toList := by
  obtain ⟨before, after, rfl⟩ := List.append_of_mem h
  rw [String.join_append, String.join_cons, String.toList_append, String.toList_append,
    ← List.append_assoc]
  exact List.infix_append ..

/-! ## Messages about the compiler -/

section
variable {s : String}

theorem isUnmarked_unableToCompile (h : IsUnmarked s) :
    IsUnmarked ("Unable to compile: " ++ s) := by
  refine h.prepend (by decide) (by decide) ?_
  have hlist : "Unable to compile: ".toList = "Unable to compile".toList ++ [':', ' '] := rfl
  rw [hlist, List.append_assoc, withEmoji_append (by decide), List.cons_append, List.cons_append,
    List.nil_append, withEmoji_colon (by decide), withEmoji_cons (by decide), List.append_assoc]
  rfl

theorem isPrintable_unableToCompile (h : IsPrintable s) :
    IsPrintable ("Unable to compile: " ++ s) :=
  IsPrintable.append (by decide) h

theorem message_rejected (first : String) (others : List Json) :
    (Solidity.CompileError.rejected first others).message =
      "Unable to compile: " ++ Text.trimmed first := rfl

theorem message_noAnswer (code : Int) (diagnostics : String) :
    (Solidity.CompileError.noAnswer code diagnostics).message =
      "Unable to compile: " ++ ("solc exited with " ++ Text.showInt code) := by
  rw [← String.append_assoc]
  rfl

theorem detailLines_str (hcode : ¬ HasCode s.toList) (hprintable : IsPrintable s) :
    detailLines (.str s) = s ++ "\n" := by
  rw [detailLines, pictured, withEmoji_of_not_hasCode hcode, String.ofList_toList,
    unwrapped_of_isPrintable hprintable]

theorem exited_isUnmarked (code : Int) :
    IsUnmarked ("solc exited with " ++ Text.showInt code) ∧
      IsPrintable ("solc exited with " ++ Text.showInt code) := by
  have hchars : ∀ c ∈ ("solc exited with " ++ Text.showInt code).toList,
      c ∈ "solc exited with ".toList ∨ 45 ≤ c.toNat ∧ c.toNat ≤ 57 := by
    intro c hc
    rw [String.toList_append, List.mem_append] at hc
    exact hc.imp_right fun hc =>
      Text.toNat_of_isNumeralChar (Json.isNumeralChar_of_mem_showInt hc)
  have hother (d : Char) (hword : d ∉ "solc exited with ".toList) (hnumeral : 57 < d.toNat) :
      d ∉ ("solc exited with " ++ Text.showInt code).toList :=
    fun hd => (hchars d hd).elim hword fun hrange => absurd hrange.2 (Nat.not_le.2 hnumeral)
  constructor
  · refine isUnmarked_of_notMem (hother _ (by decide) (by decide))
      (not_hasCode_of_notMem (hother _ (by decide) (by decide))) fun hlast => ?_
    exact hother '\\' (by decide) (by decide) (List.mem_of_getLast? hlast)
  · refine IsPrintable.append (by decide) fun c hc => ?_
    have hrange := Text.toNat_of_isNumeralChar (Json.isNumeralChar_of_mem_showInt hc)
    simp only [List.mem_cons, List.not_mem_nil, or_false]
    omega

end

/-! ## Running the compiler -/

/-- What is known once the compiler is to be run: the file exists, its mode, format and settings are
valid, and its sources were read. -/
structure Compiling (r : Recording) (target : String) (o : AnalysisOptions) where
  mode : Mode
  format : Format
  loaded : Settings
  texts : List (String × String)
  noNull : Path.hasNull target = false
  isFile : ∃ bytes, r.files.find (Path.resolved r.directory target) = .ok (.file bytes)
  mode_eq : Mode.ofJson (.str o.mode) = .ok mode
  format_eq : Format.ofName o.format = .ok format
  loaded_eq : Settings.load r.environment = .ok loaded
  texts_eq : Solidity.sourcesOf r.files r.directory (Path.resolved r.directory target) none =
    .ok texts

namespace Compiling

section
variable {r : Recording} {target : String} {o : AnalysisOptions} (c : Compiling r target o)

/-- The settings that the options leave. -/
def settings : Settings :=
  { c.loaded with
    clientName := o.clientName.getD c.loaded.clientName
    compiler := o.compiler.getD c.loaded.compiler }

/-- What has been shown before the compiler is run. -/
def notice : String :=
  if c.settings.usesTrialAccount then shownTrialNotice else ""

/-- The progress right after the compiler was run. -/
def progress : Progress :=
  { r.start with
    output := c.notice
    compilations := [(Solidity.arguments c.settings.compiler,
      Solidity.compilerInput (c.texts.map fun (unit, text) => (unit, .str text)))] }

/-- **The run comes upon the error of the compiler.** -/
theorem raises {contract : Option String} {e : Solidity.CompileError}
    (h : Solidity.outputOf c.settings.compiler r.compiler = failWith e) :
    ((Command.analyze target contract o).steps r).Raises r.start (.compile e) c.progress := by
  let noticed : Progress := { r.start with output := c.notice }
  have hnotice (htrial : c.settings.usesTrialAccount = true) :
      (printMarkup Command.trialNotice).runFrom r.start = (.ok (), noticed) := by
    have hshown : c.notice = shownTrialNotice := if_pos htrial
    rw [printMarkup, marked_trialNotice, ← hshown]
    rfl
  have hsilent (htrial : ¬ c.settings.usesTrialAccount = true) : r.start = noticed := by
    have hshown : c.notice = "" := if_neg htrial
    simp only [noticed, hshown]
    rfl
  have hcompile (sources : Json.Members) :
      (Command.compile r c.settings.compiler sources).Raises noticed (.compile e)
        { noticed with compilations :=
            [(Solidity.arguments c.settings.compiler, Solidity.compilerInput sources)] } := by
    rw [Command.compile, h]
    exact .later rfl (.refuse (.compile e) _)
  rw [Command.steps]
  unfold Command.analyzeFile
  refine .later (Command.runFrom_targetFile c.noNull c.isFile _) ?_
  rw [c.mode_eq, c.format_eq]
  refine .later rfl (.later rfl ?_)
  rw [Step.settings, c.loaded_eq]
  refine .later rfl ?_
  rw [c.texts_eq]
  exact .when hnotice hsilent (.later rfl (.first _ (hcompile _)))

/-- What a run shows that comes upon an error of which the message is shown as it is. -/
theorem output_eq {contract : Option String} {args : List String} {e : Solidity.CompileError}
    (h : Command.ofArguments? args = some (.analyze target contract o))
    (he : Solidity.outputOf c.settings.compiler r.compiler = failWith e) {text : String}
    (htext : e.message = "Unable to compile: " ++ text) (hunmarked : IsUnmarked text)
    (hprintable : IsPrintable text) :
    (runArguments r args).progress.output =
      c.notice ++ ("✖ " ++ e.message ++ "\n") ++
        String.join (e.details.tail.map detailLines) := by
  have hmessage : (CommandError.compile e).message = "Unable to compile: " ++ text := htext
  refine (c.raises he).output_eq h ?_ ?_ <;> rw [hmessage]
  · exact isUnmarked_unableToCompile hunmarked
  · exact isPrintable_unableToCompile hprintable

end

end Compiling

/-! ## What is shown -/

/-- **What an analysis shows if there is nothing to analyse.** -/
theorem analyze_shows_diagnostics {r : Recording} {args : List String} {target : String}
    {contract : Option String} {o : AnalysisOptions}
    (h : Command.ofArguments? args = some (.analyze target contract o))
    (c : Compiling r target o) {e : Solidity.CompileError}
    (he : Solidity.outputOf c.settings.compiler r.compiler = failWith e) :
    (runArguments r args).exitCode = 1 ∧
    (∀ first others, e = .rejected first others →
      '[' ∉ first.toList → ¬ HasCode first.toList →
      (Text.trimmed first).toList.getLast? ≠ some '\\' → IsPrintable (Text.trimmed first) →
      (runArguments r args).progress.output =
        c.notice ++ ("✖ " ++ e.message ++ "\n") ++ String.join (others.map detailLines) ∧
      ∀ m, .str m ∈ e.details → m = first ∨ ¬ HasCode m.toList ∧ IsPrintable m →
        (Text.trimmed m).toList <:+: (runArguments r args).progress.output.toList) ∧
    ∀ code diagnostics, e = .noAnswer code diagnostics →
      (runArguments r args).progress.output =
        c.notice ++ ("✖ Unable to compile: solc exited with " ++ Text.showInt code ++ "\n") := by
  refine ⟨?_, ?_, ?_⟩
  · rw [(c.raises he).runArguments_eq h]
    exact CommandError.exitCode_ends _ _
  · rintro first others rfl hbracket hcode hslash hprintable
    have hmessage := message_rejected first others
    have hcontained := Text.infix_trimmed first
    have hunmarked : IsUnmarked (Text.trimmed first) :=
      isUnmarked_of_notMem (fun hb => hbracket (hcontained.subset hb))
        (fun hc => hcode (hc.mono hcontained)) hslash
    have houtput := c.output_eq h he hmessage hunmarked hprintable
    refine ⟨houtput, fun m hm hshown => ?_⟩
    rw [houtput, hmessage]
    simp only [String.toList_append]
    have hfirst (notice details : List Char) : (Text.trimmed first).toList <:+:
        notice ++ ("✖ ".toList ++ ("Unable to compile: ".toList ++ (Text.trimmed first).toList) ++
          "\n".toList) ++ details :=
      ⟨notice ++ ("✖ ".toList ++ "Unable to compile: ".toList), "\n".toList ++ details, by simp⟩
    rw [Solidity.CompileError.details, List.mem_cons, Json.str.injEq] at hm
    rcases hm with rfl | hm
    · exact hfirst _ _
    · rcases hshown with rfl | ⟨hcode, hprintable⟩
      · exact hfirst _ _
      · have hline : m ++ "\n" ∈ others.map detailLines :=
          List.mem_map.2 ⟨_, hm, detailLines_str hcode hprintable⟩
        have hjoined := infix_join hline
        rw [String.toList_append] at hjoined
        have hm := (Text.infix_trimmed m).trans (List.prefix_append m.toList "\n".toList).isInfix
        exact (hm.trans hjoined).trans (List.suffix_append _ _).isInfix
  · rintro code diagnostics rfl
    obtain ⟨hunmarked, hprintable⟩ := exited_isUnmarked code
    have hmessage := message_noAnswer code diagnostics
    have hwords : "✖ Unable to compile: solc exited with " =
      "✖ " ++ "Unable to compile: " ++ "solc exited with " := by decide
    have hnone : (Solidity.CompileError.noAnswer code diagnostics).details.tail = [] := by
      rw [Solidity.CompileError.details]
      split <;> rfl
    rw [c.output_eq h he hmessage hunmarked hprintable, hmessage, hnone, hwords]
    simp only [String.append_assoc, List.map_nil, String.join_nil, String.append_empty]

/-- The compiler lists two errors, the second of them with brackets. -/
theorem two_diagnostics_are_shown :
    let answer : Json := .obj [("errors", .arr [
      .obj [("severity", .str "error"), ("formattedMessage", .str "Undeclared x\n")],
      .obj [("severity", .str "error"), ("message", .str "No member a[b]")]])]
    let r : Recording :=
      { directory := "/work", environment := [("MYTHX_API_KEY", .str "key")]
        files := { directory := "/work", entries := [(["work", "C.sol"], .file [])] }
        compiler := .finished 1 (answer.write Json.reportLayout) "" }
    let e : Solidity.CompileError := .rejected "Undeclared x\n" [.str "No member a[b]"]
    let outcome := runArguments r ["analyze", "C.sol"]
    Command.ofArguments? ["analyze", "C.sol"] = some (.analyze "C.sol" none {}) ∧
    Nonempty (Compiling r "C.sol" {}) ∧ Solidity.outputOf "solc" r.compiler = failWith e ∧
    '[' ∉ "Undeclared x\n".toList ∧ ¬ HasCode "Undeclared x\n".toList ∧
    (Text.trimmed "Undeclared x\n").toList.getLast? ≠ some '\\' ∧
    IsPrintable (Text.trimmed "Undeclared x\n") ∧ .str "No member a[b]" ∈ e.details ∧
    ¬ HasCode "No member a[b]".toList ∧ IsPrintable "No member a[b]" ∧
    outcome.exitCode = 1 ∧
    (Text.trimmed "No member a[b]").toList <:+: outcome.progress.output.toList := by
  intro answer r e outcome
  have h : Command.ofArguments? ["analyze", "C.sol"] = some (.analyze "C.sol" none {}) := by
    simp [Command.ofArguments?, Command.ofName?, Command.analysisOptions, Arguments.read,
      Arguments.looksLikeSwitch, Arguments.withPositional, Arguments.value?, Arguments.has,
      Keyed.lookup?]
  let c : Compiling r "C.sol" {} := {
    mode := .quick
    format := .text
    loaded := { apiUrl := Settings.defaultUrl, apiKey := some "key" }
    texts := [("/work/C.sol", "")]
    noNull := by decide +kernel
    isFile := ⟨[], by decide +kernel⟩
    mode_eq := rfl
    format_eq := rfl
    loaded_eq := toOption_eq_some_iff.1 (by decide +kernel)
    texts_eq := toOption_eq_some_iff.1 (by decide +kernel) }
  have he : Solidity.outputOf c.settings.compiler r.compiler = failWith e := by
    have hparse : Json.parse (answer.write Json.reportLayout) = .ok answer :=
      Json.parse_write Json.reportLayout_separates (by decide) (by decide)
    have hrun : r.compiler = .finished 1 (answer.write Json.reportLayout) "" := rfl
    rw [hrun, Solidity.outputOf, hparse]
    dsimp only [answer, e]
    cbv
  have htrimmed : Text.trimmed "Undeclared x\n" = "Undeclared x" := by decide +kernel
  have hslash : (Text.trimmed "Undeclared x\n").toList.getLast? ≠ some '\\' := by
    rw [htrimmed]
    decide
  have hprintable : IsPrintable (Text.trimmed "Undeclared x\n") := by
    rw [htrimmed]
    decide
  have hbracket : '[' ∉ "Undeclared x\n".toList := by decide
  have hcode : ¬ HasCode "Undeclared x\n".toList := not_hasCode_of_notMem (by decide)
  have hother : ¬ HasCode "No member a[b]".toList := not_hasCode_of_notMem (by decide)
  have hother' : IsPrintable "No member a[b]" := by decide
  have hmem : Json.str "No member a[b]" ∈ e.details := by simp [e, Solidity.CompileError.details]
  obtain ⟨hexit, hshown, -⟩ := analyze_shows_diagnostics h c he
  obtain ⟨-, hdetails⟩ := hshown _ _ rfl hbracket hcode hslash hprintable
  exact ⟨h, ⟨c⟩, he, hbracket, hcode, hslash, hprintable, hmem, hother, hother', hexit,
    hdetails _ hmem (.inr ⟨hother, hother'⟩)⟩

/-- What a compiler says that gives no answer does not appear. -/
theorem diagnostics_without_answer_are_withheld :
    let r : Recording :=
      { directory := "/work", environment := [("MYTHX_API_KEY", .str "key")]
        files := { directory := "/work", entries := [(["work", "C.sol"], .file [])] }
        compiler := .finished 1 "boom" "out of memory" }
    let e : Solidity.CompileError := .noAnswer 1 "out of memory"
    let outcome := runArguments r ["analyze", "C.sol"]
    Solidity.outputOf "solc" r.compiler = failWith e ∧ e.details = [.str "out of memory"] ∧
    outcome.exitCode = 1 ∧
    outcome.progress.output = "✖ Unable to compile: solc exited with 1\n" ∧
    ¬ "out of memory".toList <:+: outcome.progress.output.toList := by
  intro r e outcome
  have hparse : Json.parse "boom" = .error .malformed := rfl
  have houtput : outcome.progress.output = "✖ Unable to compile: solc exited with 1\n" := by
    decide +kernel
  refine ⟨?_, ?_, by decide +kernel, houtput, ?_⟩
  · have hrun : r.compiler = .finished 1 "boom" "out of memory" := rfl
    rw [hrun, Solidity.outputOf, hparse]
  · have htrimmed : Text.trimmed "out of memory" = "out of memory" := by decide +kernel
    simp [e, Solidity.CompileError.details, htrimmed]
  · rw [houtput]
    decide +kernel

end ContractAudit
