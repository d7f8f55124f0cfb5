/-
  What holds after the steps of a command.

  * `x.Holds p done ended`: from the progress `p` the step `x` goes on to what `done` says, or ends
    the run with what `ended` says.  `Holds.bind` is the rule for steps in a row.
  * A quiet step (`Quiet x P`) leaves the conversation with the service alone, goes on only with
    results of which `P` holds, and ends no run with the exit code 0.  All steps are quiet but
    `signIn`, `ask` and `awaitJob`.
  * `quiet_…` and `holds_…`: one rule for each kind of step; `runArguments_ends`: what holds after
    the steps of a command holds of its run.
  * A quiet step of which it is known that it does not end the run is one that passes (`Passes`).
-/
import ContractAudit.Command.Run
import ContractAudit.Proofs.Answers

namespace ContractAudit

namespace Step

section
variable {α β : Type} {p : Progress}

/-- The result of a step and the progress after it. -/
def runFrom (x : Step α) (p : Progress) : Except Ending α × Progress :=
  x.run.run p

theorem runFrom_bind (x : Step α) (f : α → Step β) (p : Progress) :
    (x >>= f).runFrom p =
      match x.runFrom p with
      | (.ok a, p) => (f a).runFrom p
      | (.error e, p) => (.error e, p) := by
  have : (x >>= f).runFrom p = (ExceptT.bindCont f (x.runFrom p).1).run (x.runFrom p).2 := rfl
  rw [this]
  rcases x.runFrom p with ⟨_ | _, _⟩ <;> rfl

/-- What holds after a step: `done` if it goes on, and `ended` if it ends the run. -/
structure Holds (x : Step α) (p : Progress) (done : α → Progress → Prop)
    (ended : Ending → Progress → Prop) : Prop where
  done : ∀ a p', x.runFrom p = (.ok a, p') → done a p'
  ended : ∀ e p', x.runFrom p = (.error e, p') → ended e p'

variable {x : Step α} {f : α → Step β} {done : α → Progress → Prop}
  {ended : Ending → Progress → Prop}

namespace Holds

theorem of_ok {a : α} {p' : Progress} (hrun : x.runFrom p = (.ok a, p')) (h : done a p') :
    x.Holds p done ended where
  done a' p₁ h' := by cases hrun.symm.trans h'; exact h
  ended e p₁ h' := by cases hrun.symm.trans h'

theorem of_error {e : Ending} {p' : Progress} (hrun : x.runFrom p = (.error e, p'))
    (h : ended e p') : x.Holds p done ended where
  done a p₁ h' := by cases hrun.symm.trans h'
  ended e' p₁ h' := by cases hrun.symm.trans h'; exact h

theorem congr {y : Step α} {p' : Progress} (h : y.Holds p' done ended)
    (hrun : x.runFrom p = y.runFrom p') : x.Holds p done ended where
  done a p₁ h' := h.done a p₁ (hrun.symm.trans h')
  ended e p₁ h' := h.ended e p₁ (hrun.symm.trans h')

/-- **Steps in a row.** -/
theorem bind {done : β → Progress → Prop}
    (h : x.Holds p (fun a p => (f a).Holds p done ended) ended) : (x >>= f).Holds p done ended := by
  rcases hx : x.runFrom p with ⟨e | a, p'⟩
  · exact .of_error (by rw [runFrom_bind, hx]) (h.ended e p' hx)
  · exact (h.done a p' hx).congr (by rw [runFrom_bind, hx])

theorem imp {done' : α → Progress → Prop} {ended' : Ending → Progress → Prop}
    (h : x.Holds p done ended) (hdone : ∀ a p', done a p' → done' a p')
    (hended : ∀ e p', ended e p' → ended' e p') : x.Holds p done' ended' where
  done a p' hx := hdone a p' (h.done a p' hx)
  ended e p' hx := hended e p' (h.ended e p' hx)

end Holds

/-! ## Quiet steps -/

/-- A step that leaves the conversation alone: it goes on with a result of which `P` holds, or ends
the run, but not with the exit code 0. -/
def Quiet (x : Step α) (P : α → Prop) : Prop :=
  ∀ p, x.Holds p (fun a p' => P a ∧ p'.session = p.session)
    fun e p' => e ≠ .exit 0 ∧ p'.session = p.session

variable {P : α → Prop} {Q : β → Prop} {s : Service.Session}

theorem Quiet.bind_holds {done : β → Progress → Prop} (hx : Quiet x P) (hp : p.session = s)
    (hdone : ∀ a p', P a → p'.session = s → (f a).Holds p' done ended)
    (hended : ∀ e p', e ≠ .exit 0 → p'.session = s → ended e p') :
    (x >>= f).Holds p done ended := by
  subst hp
  exact .bind ((hx p).imp (fun a p' h => hdone a p' h.1 h.2) fun e p' h => hended e p' h.1 h.2)

theorem Quiet.bind (hx : Quiet x P) (hf : ∀ a, P a → Quiet (f a) Q) : Quiet (x >>= f) Q :=
  fun _ => hx.bind_holds rfl
    (fun a p' ha hp' => (hf a ha p').imp (fun _ _ h => ⟨h.1, h.2.trans hp'⟩)
      fun _ _ h => ⟨h.1, h.2.trans hp'⟩)
    fun _ _ he hp' => ⟨he, hp'⟩

theorem Quiet.when_holds {done : β → Progress → Prop} {x : Step Unit} {P : Unit → Prop} {k : Step β}
    {b : Prop} [Decidable b] (hx : Quiet x P) (hp : p.session = s)
    (hdone : ∀ p', p'.session = s → k.Holds p' done ended)
    (hended : ∀ e p', e ≠ .exit 0 → p'.session = s → ended e p') :
    (if b then x >>= fun _ => k else k).Holds p done ended := by
  split
  · exact hx.bind_holds hp (fun _ p' _ hp' => hdone p' hp') hended
  · exact hdone p hp

theorem broken_ne_exit (d : Defect) (code : Nat) : Ending.broken d ≠ .exit code := nofun

theorem quiet_pure {a : α} (h : P a) : Quiet (pure a) P := fun _ => .of_ok rfl ⟨h, rfl⟩

theorem quiet_throw {e : Ending} (h : e ≠ .exit 0) : Quiet (throw e : Step α) P :=
  fun _ => .of_error rfl ⟨h, rfl⟩

theorem quiet_print (s : String) : Quiet (print s) fun _ => True :=
  fun _ => .of_ok rfl ⟨trivial, rfl⟩

theorem quiet_lift (x : Except Defect α) : Quiet (lift x) (x = .ok ·) := by
  cases x with
  | ok a => exact quiet_pure rfl
  | error d => exact quiet_throw (broken_ne_exit d 0)

theorem quiet_printMarkup (s : String) : Quiet (printMarkup s) fun _ => True :=
  (quiet_lift _).bind fun _ _ => quiet_print _

theorem quiet_refuse (message : String) (details : List Json) :
    Quiet (refuse message details : Step α) P :=
  (quiet_printMarkup _).bind fun _ _ => (quiet_print _).bind fun _ _ => quiet_throw (by simp)

theorem quiet_orRefuse {ε : Type} (message : ε → String) (x : Except ε α) :
    Quiet (orRefuse message x) (x = .ok ·) := by
  cases x with
  | ok a => exact quiet_pure rfl
  | error e => exact quiet_refuse _ _

theorem quiet_orRefuseFault {ε : Type} (message : ε → String) (details : ε → List Json)
    (x : Except (Fault ε) α) : Quiet (orRefuseFault message details x) (x = .ok ·) := by
  cases x with
  | ok a => exact quiet_pure rfl
  | error fault =>
    cases fault with
    | error e => exact quiet_refuse _ _
    | defect d => exact quiet_throw (broken_ne_exit d 0)

theorem quiet_settings (r : Recording) :
    Quiet (settings r) (Settings.load r.environment = .ok ·) :=
  quiet_orRefuseFault _ _ _

theorem quiet_compiling (x : Except (Fault Solidity.CompileError) α) :
    Quiet (compiling x) (x = .ok ·) :=
  quiet_orRefuseFault _ _ _

/-! ## Steps that pass -/

/-- A step that leaves the conversation alone and ends no run. -/
def Passes (x : Step Unit) : Prop :=
  ∀ p, ∃ p', x.runFrom p = (.ok (), p') ∧ p'.session = p.session

theorem Passes.bind_holds {x : Step Unit} {k : Step β} {done : β → Progress → Prop}
    (hx : Passes x) (hp : p.session = s) (hdone : ∀ p', p'.session = s → k.Holds p' done ended) :
    (x >>= fun _ => k).Holds p done ended := by
  obtain ⟨p', hrun, hsession⟩ := hx p
  exact .bind (.of_ok hrun (hdone p' (hsession.trans hp)))

theorem Passes.when_holds {x : Step Unit} {k : Step β} {done : β → Progress → Prop} {b : Prop}
    [Decidable b] (hx : Passes x) (hp : p.session = s)
    (hdone : ∀ p', p'.session = s → k.Holds p' done ended) :
    (if b then x >>= fun _ => k else k).Holds p done ended := by
  split
  · exact hx.bind_holds hp hdone
  · exact hdone p hp

theorem passes_print (s : String) : Passes (print s) :=
  fun p => ⟨{ p with output := p.output ++ s }, rfl, rfl⟩

theorem passes_printMarkup {s : String} (h : Returns (Terminal.marked s)) :
    Passes (printMarkup s) := by
  obtain ⟨t, ht⟩ := h
  rw [printMarkup, ht]
  exact passes_print t

/-! ## Exchanges -/

theorem runFrom_ask {x : Service.Exchange α} {message : Service.Error → String} {a : α}
    {s' : Service.Session} (h : x.runIn p.session = (.ok a, s')) :
    (ask x message).runFrom p = (.ok a, { p with session := s' }) := by
  have hrun : (ask x message).runFrom p =
      (orRefuseFault message (fun _ => []) (x.runIn p.session).1).runFrom
        { p with session := (x.runIn p.session).2 } := rfl
  rw [hrun, h]
  rfl

/-- An exchange takes the conversation on, and goes on with its answer if it has one. -/
theorem holds_ask {x : Service.Exchange α} {message : Service.Error → String} {done}
    (hdone : ∀ a p', (x.runIn p.session).1 = .ok a → p'.session = (x.runIn p.session).2 →
      done a p')
    (hended : ∀ e p' fault, e ≠ .exit 0 → (x.runIn p.session).1 = .error fault →
      p'.session = (x.runIn p.session).2 → ended e p') :
    (ask x message).Holds p done ended := by
  have hrun : (ask x message).runFrom p =
      (orRefuseFault message (fun _ => []) (x.runIn p.session).1).runFrom
        { p with session := (x.runIn p.session).2 } := rfl
  refine .congr ?_ hrun
  cases hanswer : (x.runIn p.session).1 with
  | ok a => exact .of_ok rfl (hdone a _ hanswer rfl)
  | error fault =>
    exact (quiet_orRefuseFault message (fun _ => []) (.error fault) _).imp
      (fun _ _ h => by cases h.1) fun e p' h => hended e p' fault h.1 hanswer h.2

end

end Step

/-! ## Steps of the commands -/

/-- The notice about the trial account, as it is shown. -/
def shownTrialNotice : String :=
  "Using the MythX trial account. Set MYTHX_API_KEY or MYTHX_USERNAME and MYTHX_PASSWORD to " ++
    "analyze with your own account.\n"

theorem marked_trialNotice : Terminal.marked Command.trialNotice = .ok shownTrialNotice :=
  toOption_eq_some_iff.1 (by decide +kernel)

namespace Command

open Step

section
variable {α : Type} {p : Progress} {s : Service.Session}

theorem runFrom_targetFile {r : Recording} {target : String}
    (hnull : Path.hasNull target = false)
    (hfile : ∃ bytes, r.files.find (Path.resolved r.directory target) = .ok (.file bytes))
    (p : Progress) :
    (targetFile r target).runFrom p = (.ok (Path.resolved r.directory target), p) := by
  obtain ⟨bytes, hfile⟩ := hfile
  rw [targetFile, hnull]
  dsimp only
  rw [hfile]
  rfl

theorem quiet_targetFile (r : Recording) (target : String) :
    Quiet (targetFile r target) fun path => path = Path.resolved r.directory target ∧
      ∃ bytes, r.files.find path = .ok (.file bytes) := by
  rw [targetFile]
  dsimp only
  split
  · exact (quiet_throw (P := fun _ => False) (by simp)).bind fun _ h => h.elim
  · split
    · next bytes hfind => exact quiet_pure ⟨rfl, bytes, hfind⟩
    · exact quiet_throw (by simp)

theorem holds_signIn {settings : Settings} {done : Service.Client → Progress → Prop}
    {ended : Ending → Progress → Prop}
    (h : done (.ofSettings settings)
      { p with session := { p.session with token := settings.apiKey.map .str } }) :
    (signIn settings).Holds p done ended := .of_ok rfl h

theorem quiet_printBody (title : String) (body : Json) :
    Quiet (printBody title body) fun _ => True :=
  quiet_print _

/-- The compiler answers, with an output that tells of no errors. -/
theorem quiet_compile (r : Recording) (command : String) (sources : Json.Members) :
    Quiet (compile r command sources) (Solidity.outputOf command r.compiler = .ok ·) := by
  have hmodify : Quiet (modify fun p : Progress => { p with
      compilations := p.compilations ++
        [(Solidity.arguments command, Solidity.compilerInput sources)] } : Step Unit)
      fun _ => True := fun _ => .of_ok rfl ⟨trivial, rfl⟩
  exact hmodify.bind fun _ _ => quiet_compiling _

/-- A wait for a job takes the conversation on, and goes on if the job comes to its end. -/
theorem holds_awaitJob {c : Service.Client} {job : Json} {schedule : Job.Schedule}
    {done : Job.State Job.Time → Progress → Prop} {ended : Ending → Progress → Prop}
    (hdone : ∀ state p', (c.watch job schedule p.session).outcome = .ok state →
      p'.session = (c.watch job schedule p.session).world.session → done state p')
    (hended : ∀ e p', e ≠ .exit 0 →
      p'.session = (c.watch job schedule p.session).world.session → ended e p') :
    (awaitJob c job schedule).Holds p done ended := by
  -- the progress right after the wait
  let after : Progress :=
    { p with
      session := (c.watch job schedule p.session).world.session
      waits := p.waits ++ Service.waits (c.watch job schedule p.session).events }
  have hquiet {x : Step (Job.State Job.Time)} (hx : Quiet x fun _ => False) :
      x.Holds after done ended :=
    (hx after).imp (fun _ _ h => h.1.elim) fun e p' h => hended e p' h.1 h.2
  rw [awaitJob]
  refine .bind (.of_ok (rfl : (get : Step Progress).runFrom p = (.ok p, p)) ?_)
  refine .bind (.of_ok (rfl : (set after : Step Unit).runFrom p = (.ok (), after)) ?_)
  split
  · next state h => exact .of_ok rfl (hdone state _ h rfl)
  · exact hquiet (quiet_refuse _ _)
  · exact hquiet (quiet_throw (broken_ne_exit _ 0))
  · exact hquiet (quiet_throw (broken_ne_exit _ 0))
  · exact hquiet (quiet_refuse _ _)

/-- The text that tells of some reports: that of a format, or that nothing was found. -/
def reportText (r : Recording) (f : Format) (reports : List Report) (clean : String) :
    Except Defect String :=
  if reports.isEmpty then .ok clean else (f.render r.directory reports).map Terminal.echoed

theorem runFrom_printReports {r : Recording} {f : Format} {reports : List Report}
    {clean text : String} (h : reportText r f reports clean = .ok text) :
    (printReports r f reports clean).runFrom p =
      (.ok (), { p with output := p.output ++ text }) := by
  rw [reportText] at h
  rw [printReports]
  split at h
  · next hempty =>
    obtain rfl := Except.ok.inj h
    rw [if_pos hempty]
    rfl
  · next hempty =>
    rw [if_neg hempty]
    cases hrender : f.render r.directory reports with
    | error d => rw [hrender] at h; cases h
    | ok rendered =>
      rw [hrender] at h
      obtain rfl := Except.ok.inj h
      rfl

theorem holds_printReports {r : Recording} {f : Format} {reports : List Report} {clean : String}
    {done : Unit → Progress → Prop} {ended : Ending → Progress → Prop}
    (hdone : ∀ text, reportText r f reports clean = .ok text →
      done () { p with output := p.output ++ text })
    (hended : ∀ e p', e ≠ .exit 0 → p'.session = p.session → ended e p') :
    (printReports r f reports clean).Holds p done ended := by
  rw [printReports]
  rw [reportText] at hdone
  split
  · next h =>
    rw [if_pos h] at hdone
    exact .of_ok rfl (hdone clean rfl)
  · next h =>
    rw [if_neg h] at hdone
    cases hrender : f.render r.directory reports with
    | error d => exact .of_error rfl (hended (.broken d) p (broken_ne_exit d 0) rfl)
    | ok text =>
      rw [hrender] at hdone
      exact .of_ok rfl (hdone _ rfl)

end

end Command

/-- **A run ends as the steps of its command do.** -/
theorem runArguments_ends {r : Recording} {args : List String} {command : Command}
    (h : Command.ofArguments? args = some command) (ended : Ending → Progress → Prop)
    (hsteps : (command.steps r).Holds { session := { token := none, replies := r.replies } }
      (fun _ => ended (.exit 0)) ended) :
    ended (runArguments r args).ending (runArguments r args).progress := by
  let start : Progress := { session := { token := none, replies := r.replies } }
  have hrun : runArguments r args =
      match (command.steps r).runFrom start with
      | (.ok (), progress) => ⟨.exit 0, progress⟩
      | (.error ending, progress) => ⟨ending, progress⟩ := by
    rw [runArguments, h]
    rfl
  rw [hrun]
  rcases hend : (command.steps r).runFrom start with ⟨e | ⟨⟩, progress⟩
  · exact hsteps.ended e progress hend
  · exact hsteps.done () progress hend

end ContractAudit
