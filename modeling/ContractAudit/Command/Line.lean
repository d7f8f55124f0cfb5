/-
  Command lines.

  * `Arguments.read` tells switches from positional arguments: a switch starts with a dash, its
    value is the next argument or follows an equals sign, and `--` ends the switches.
  * `Command.ofArguments?` is the command that a command line asks for, if it asks for one rightly.
-/
import ContractAudit.Submission
import ContractAudit.Report.Format
import ContractAudit.Settings

namespace ContractAudit

/-- A switch, by all of its names. -/
structure Switch where
  names : List String
  takesValue : Bool := false

/-- The arguments of a command line: those without a name, and the switches with their values, in
order. -/
structure Arguments where
  positional : List String := []
  switches : List (String × String) := []

namespace Arguments

/-- The value of a switch; the last one counts. -/
def value? (a : Arguments) (name : String) : Option String :=
  Keyed.lookup? name a.switches.reverse

/-- Whether a switch is set. -/
def has (a : Arguments) (name : String) : Bool :=
  (a.value? name).isSome

/-- The arguments with one more positional in front. -/
def withPositional (a : Arguments) (s : String) : Arguments :=
  { a with positional := s :: a.positional }

/-- The arguments with a switch set in front of the others. -/
def withSwitch (a : Arguments) (s : Switch) (value : String) : Arguments :=
  { a with switches := (s.names.headD "", value) :: a.switches }

/-- Whether an argument is meant as a switch. -/
def looksLikeSwitch (s : String) : Bool :=
  s.startsWith "-" && s != "-"

/-- The part before an equals sign and the part after it. -/
def splitValue (s : String) : String × Option String :=
  match s.toList.span (· != '=') with
  | (name, _ :: value) => (String.ofList name, some (String.ofList value))
  | (name, []) => (String.ofList name, none)

/-- The switch of a name. -/
def switch? (known : List Switch) (name : String) : Option Switch :=
  known.find? fun s => s.names.contains name

/-- The switches that a bundle of letters stands for. -/
def bundle? (known : List Switch) (letters : List Char) : Option (List Switch) :=
  letters.mapM fun c => (switch? known (String.ofList ['-', c])).filter fun s => !s.takesValue

/-- Reads arguments. Unless they are `mixed`, everything after the first positional one is
positional. -/
def read (known : List Switch) (mixed : Bool) : List String → Option Arguments
  | [] => some {}
  | a :: rest =>
    if a = "--" then some { positional := rest }
    else if !looksLikeSwitch a then
      if mixed then (read known mixed rest).map (·.withPositional a)
      else some { positional := a :: rest }
    else if a.startsWith "--" then
      let (name, value?) := splitValue a
      match switch? known name, value?, rest with
      | none, _, _ => none
      | some s, some v, rest =>
        if s.takesValue then (read known mixed rest).map (·.withSwitch s v) else none
      | some s, none, rest =>
        if s.takesValue then
          match rest with
          | v :: rest => (read known mixed rest).map (·.withSwitch s v)
          | [] => none
        else (read known mixed rest).map (·.withSwitch s "")
    else do
      let switches ← bundle? known a.toList.tail
      let others ← read known mixed rest
      pure (switches.foldr (fun s a => a.withSwitch s "") others)
termination_by args => args.length

end Arguments

/-- What an analysis is asked to do. -/
structure AnalysisOptions where
  mode : String := "quick"
  format : String := "text"
  clientName : Option String := none
  compiler : Option String := none
  withoutCache : Bool := false
  showsBodies : Bool := false

/-- A command. -/
inductive Command where
  /-- Compiles a file, has it analysed and reports the findings. -/
  | analyze (target : String) (contract : Option String) (options : AnalysisOptions)
  /-- Reports the findings of an analysis. -/
  | report (job format : String)
  /-- Tells the status of an analysis. -/
  | status (job : String)
  /-- Lists the submitted analyses. -/
  | list
  /-- Tells the versions of the service. -/
  | apiVersion
  /-- Tells the version of the program. -/
  | version

namespace Command

/-- The switches before the command. -/
def commonSwitches : List Switch := [{ names := ["--verbose", "-v"] }]

/-- The switch for the output format. -/
def formatSwitch : Switch := { names := ["--format"], takesValue := true }

/-- The switches of an analysis. -/
def analysisSwitches : List Switch := [
  { names := ["--mode"], takesValue := true }, formatSwitch,
  { names := ["--client-tool-name"], takesValue := true },
  { names := ["--solc"], takesValue := true },
  { names := ["--no-cache-lookup"] }, { names := ["--debug"] }]

/-- The options of an analysis. -/
def analysisOptions (a : Arguments) : AnalysisOptions :=
  { mode := (a.value? "--mode").getD "quick"
    format := (a.value? "--format").getD "text"
    clientName := a.value? "--client-tool-name"
    compiler := a.value? "--solc"
    withoutCache := a.has "--no-cache-lookup"
    showsBodies := a.has "--debug" }

/-- The command of a name and its arguments. -/
def ofName? (name : String) (args : List String) : Option Command :=
  match name with
  | "analyze" => do
    let a ← Arguments.read analysisSwitches true args
    match a.positional with
    | [target] => some (analyze target none (analysisOptions a))
    | [target, contract] => some (analyze target (some contract) (analysisOptions a))
    | _ => none
  | "report" => do
    let a ← Arguments.read [formatSwitch] true args
    match a.positional with
    | [job] => some (report job ((a.value? "--format").getD "text"))
    | _ => none
  | "status" => do
    match (← Arguments.read [] true args).positional with
    | [job] => some (status job)
    | _ => none
  | "list" => withoutArguments list
  | "api-version" => withoutArguments apiVersion
  | "version" => withoutArguments version
  | _ => none
where
  /-- The command, if there are no arguments. -/
  withoutArguments (c : Command) : Option Command := do
    if (← Arguments.read [] true args).positional.isEmpty then some c else none

/-- The command of a command line. -/
def ofArguments? (args : List String) : Option Command := do
  match (← Arguments.read commonSwitches false args).positional with
  | name :: args => ofName? name args
  | [] => none

end Command

end ContractAudit
