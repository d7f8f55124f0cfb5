/-
  Running commands.

  * A `Step` prints, asks the service, and may end the run: with an exit code, or by a defect.  What
    a run did is its `Progress`: the text it printed, the conversation with the service, the runs of
    the compiler and the waits.
  * `Command.run` is a whole command.  An error that is provided for ends it with a red message and
    the exit code 1.
-/
import ContractAudit.Command.Line
import ContractAudit.Command.Recording
import ContractAudit.Report.Clean
import ContractAudit.Report.Grouping
import ContractAudit.Service.Watch
import ContractAudit.Solidity.Unit
import ContractAudit.Terminal.Spread

namespace ContractAudit

/-- What a run did. -/
structure Progress where
  output : String := ""
  session : Service.Session
  /-- The command line and the input of each run of the compiler. -/
  compilations : List (List String × Json) := []
  waits : List Float := []

/-- How a run ends before its last step. -/
inductive Ending where
  | exit (code : Nat)
  | broken (d : Defect)

/-- A part of a run. -/
abbrev Step (α : Type) := ExceptT Ending (StateM Progress) α

namespace Step

/-- Prints a text. -/
def print (s : String) : Step Unit :=
  modify fun p => { p with output := p.output ++ s }

/-- A computation that may fail by a defect. -/
def lift {α : Type} : Except Defect α → Step α
  | .ok a => pure a
  | .error d => throw (.broken d)

/-- Prints markup. -/
def printMarkup (s : String) : Step Unit := do
  let t ← lift (Terminal.marked s)
  print t

/-- The lines of a detail. Codes stand for emoji in a text, not in other values. -/
def detailLines : Json → String
  | .str s => Terminal.unwrapped (Terminal.pictured s)
  | detail => Terminal.unwrapped
      ("\n".intercalate (Terminal.spread { room := Terminal.consoleWidth } detail))

/-- Ends the run with a message and some lines about it. -/
def refuse {α : Type} (message : String) (details : List Json) : Step α := do
  printMarkup ("[red]✖ " ++ message ++ "[/red]")
  print (String.join (details.map detailLines))
  throw (.exit 1)

/-- A computation whose errors end the run with a message. -/
def orRefuse {ε α : Type} (message : ε → String) : Except ε α → Step α
  | .ok a => pure a
  | .error e => refuse (message e) []

/-- The same for a computation that may also fail by a defect. -/
def orRefuseFault {ε α : Type} (message : ε → String) (details : ε → List Json) :
    Except (Fault ε) α → Step α
  | .ok a => pure a
  | .error (.error e) => refuse (message e) (details e)
  | .error (.defect d) => throw (.broken d)

/-- A step of the compilation; the first detail of an error is part of its message. -/
def compiling {α : Type} (x : Except (Fault Solidity.CompileError) α) : Step α :=
  orRefuseFault Solidity.CompileError.message (fun e => e.details.tail) x

/-- An exchange with the service. -/
def ask {α : Type} (x : Service.Exchange α) (message : Service.Error → String) : Step α := do
  let p ← get
  let (answer, session) := x.runIn p.session
  set { p with session }
  orRefuseFault message (fun _ => []) answer

/-- The settings of the environment. -/
def settings (r : Recording) : Step Settings :=
  orRefuseFault SettingsError.message (fun _ => []) (Settings.load r.environment)

end Step

namespace Command

open Step

/-- Starts the conversation with the service. -/
def signIn (s : Settings) : Step Service.Client := do
  modify fun p => { p with session := { p.session with token := s.apiKey.map Json.str } }
  pure (.ofSettings s)

/-- Prints a body between lines. -/
def printBody (title : String) (body : Json) : Step Unit := do
  let line := Terminal.unwrapped "-------------------"
  print (line ++ Terminal.unwrapped (title ++ ":\n") ++
    Terminal.unwrapped (body.write Json.displayLayout) ++ line)

/-- Prints the reports, or that nothing was found. -/
def printReports (r : Recording) (f : Format) (reports : List Report) (clean : String) :
    Step Unit := do
  if reports.isEmpty then print clean
  else
    let text ← lift (f.render r.directory reports)
    print (Terminal.echoed text)

/-- Runs the compiler on some sources. -/
def compile (r : Recording) (command : String) (sources : Json.Members) : Step Json := do
  let input := Solidity.compilerInput sources
  modify fun p =>
    { p with compilations := p.compilations ++ [(Solidity.arguments command, input)] }
  compiling (Solidity.outputOf command r.compiler)

/-- Waits for a job to end. -/
def awaitJob (c : Service.Client) (job : Json) (schedule : Job.Schedule) :
    Step (Job.State Job.Time) := do
  let p ← get
  let run := c.watch job schedule p.session
  set { p with session := run.world.session, waits := p.waits ++ Service.waits run.events }
  match run.outcome with
  | .ok state => pure state
  | .error (.query (.error e)) => refuse e.message []
  | .error (.query (.defect d)) => throw (.broken d)
  | .error (.defect d) => throw (.broken d)
  | .error failure => refuse (failure.message?.getD "") []

/-- The notice about the trial account. -/
def trialNotice : String :=
  "[yellow]Using the MythX trial account. Set MYTHX_API_KEY or " ++
    "MYTHX_USERNAME and MYTHX_PASSWORD to analyze with your own account.[/yellow]"

/-- The file that a command line names: its path without links, if it is a file. -/
def targetFile (r : Recording) (target : String) : Step String := do
  if Path.hasNull target then throw (.broken .outOfDomain)
  let path := Path.resolved r.directory target
  match r.files.find path with
  | .ok (.file _) => pure path
  | _ => throw (.exit 2)

/-- Compiles a file, has it analysed and reports the findings. -/
def analyzeFile (r : Recording) (target : String) (contract : Option String)
    (o : AnalysisOptions) : Step Unit := do
  let path ← targetFile r target
  let mode ← orRefuseFault SettingsError.message (fun _ => []) (Mode.ofJson (.str o.mode))
  let format ← orRefuse UnknownFormat.message (Format.ofName o.format)
  let loaded ← settings r
  let settings := { loaded with
    clientName := o.clientName.getD loaded.clientName
    compiler := o.compiler.getD loaded.compiler }
  if settings.usesTrialAccount then printMarkup trialNotice
  let texts ← compiling (Solidity.sourcesOf r.files r.directory path none)
  let sources : Json.Members := texts.map fun (unit, text) => (unit, .str text)
  let output ← compile r settings.compiler sources
  let compiled ← compiling (Solidity.selectContract output (.str path) (.ofText? contract))
  printMarkup ("[green]✔[/green] Compiled contract " ++ compiled.name)
  let data ← lift (requestData compiled output (.obj sources) (.str mode.name) .null (.str path))
  let body := submission data (.str settings.clientName) (.bool o.withoutCache)
  if o.showsBodies then printBody "MythX Request Body" body
  let client ← signIn settings
  let job ← ask (client.submit body) Service.Error.message
  printMarkup ("[green]✔[/green] Analysis job submitted: [yellow]" ++
    Service.dashboardUrl job ++ "[/yellow]")
  let state ← awaitJob client job mode.schedule
  if state.status = .error then
    let word := match state.vendorStatus with
      | some w => if w = "" then state.status.name else w
      | none => state.status.name
    refuse ("Analysis " ++ job.display ++ " failed with status: " ++ word) []
  let payload ← ask (client.issues job) Service.Error.message
  if o.showsBodies then printBody "MythX Response Body" payload
  let findings ← lift (Finding.ofReports payload).1
  let reports := (Report.ofFindings findings sources (data.sourceList.map Json.display)).1
  printReports r format reports (Report.cleanLine path (some compiled.name))

/-- Reports the findings of an analysis. Without its sources, no position is known. -/
def reportJob (r : Recording) (job format : String) : Step Unit := do
  let format ← orRefuse UnknownFormat.message (Format.ofName format)
  let client ← signIn (← settings r)
  let payload ← ask (client.issues (.str job)) Service.Error.message
  let findings ← lift (Finding.ofReports payload).1
  let reports := (Report.ofFindings findings [] []).1
  printReports r format reports (Report.cleanLine ("analysis " ++ job) none)

/-- The line of a label and a value. -/
def labelled (label : String) (value : Json) : String :=
  Terminal.unwrapped (Terminal.pictured (String.ofList ((label ++ ":").toList ++
    Terminal.blanks (24 - (label.length + 1))) ++ value.display))

/-- Prints the record of an analysis. -/
def printAnalysis (analysis : Json) : Step Unit := do
  let job := (← lift (analysis.get? "uuid")).getD (.str "")
  print (Terminal.unwrapped "--------------------------------------------")
  for (label, key) in [("API Version", "apiVersion"), ("UUID", "uuid"), ("Status", "status"),
      ("Submitted by", "submittedBy"), ("Submitted at", "submittedAt")] do
    let value ← lift (analysis.get? key)
    print (labelled label (value.getD (.str "")))
  if job.isSet then print (labelled "Report URL" (.str (Service.dashboardUrl job)))

/-- Tells the status of an analysis. -/
def statusOf (r : Recording) (job : String) : Step Unit := do
  let client ← signIn (← settings r)
  let analysis ← ask (client.statusRecord (.str job)) Service.Error.message
  printMarkup "[green]✔ Analysis status retrieved[/green]"
  printAnalysis analysis

/-- Lists the submitted analyses. -/
def listAnalyses (r : Recording) : Step Unit := do
  let client ← signIn (← settings r)
  let body ← ask client.analyses Service.Error.message
  let listed ← lift (body.get "analyses")
  let analyses ← lift (listed.orElse (.arr [])).elements
  printMarkup ("[green]✔ " ++ Text.showInt analyses.length ++ " analyses retrieved[/green]")
  analyses.forM printAnalysis

/-- Tells the versions of the service. -/
def tellApiVersion (r : Recording) : Step Unit := do
  let client ← signIn (← settings r)
  let versions ← ask client.apiVersion fun e => "Failed to obtain API version: " ++ e.message
  let members ← lift versions.asMembers
  print (String.join (members.map fun (k, v) =>
    Terminal.wrapped (Terminal.pictured (k ++ ": " ++ v.display))))

/-- The version of the program. -/
def programVersion : String := "0.9.0"

/-- The steps of a command. -/
def steps (r : Recording) : Command → Step Unit
  | analyze target contract options => analyzeFile r target contract options
  | report job format => reportJob r job format
  | status job => statusOf r job
  | list => listAnalyses r
  | apiVersion => tellApiVersion r
  | version => print (Terminal.echoed programVersion)

end Command

/-- The result of a run: how it ended and what it did. -/
structure Outcome where
  ending : Ending
  progress : Progress

/-- Runs a command line. One that asks for no command ends with the exit code 2. -/
def runArguments (r : Recording) (args : List String) : Outcome :=
  let start : Progress := { session := { token := none, replies := r.replies } }
  match Command.ofArguments? args with
  | none => ⟨.exit 2, start⟩
  | some command =>
    match (command.steps r).run.run start with
    | (.ok (), progress) => ⟨.exit 0, progress⟩
    | (.error ending, progress) => ⟨ending, progress⟩

/-- The exit code of a run. -/
def Outcome.exitCode (o : Outcome) : Nat :=
  match o.ending with
  | .exit code => code
  | .broken _ => 1

end ContractAudit
