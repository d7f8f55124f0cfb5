/-
  The command line program.

  A command runs against a recording, which is read as JSON from the standard input: the files below
  the working directory, the environment, what the compiler gives back and the replies of the
  service.  The output goes to the standard output, and the exit code is that of the run.
-/
import ContractAudit.Command.Run

namespace ContractAudit

/-- The directory of a recording that names none. -/
def defaultDirectory : String := "/work"

/-- The recording in a text; one that cannot be read is empty. -/
def recordingOfText (s : String) : Recording :=
  let v := (Json.parse? s).getD .null
  let directory := Recording.textOf (Recording.member v "directory")
  .ofMembers (if directory = "" then defaultDirectory else directory) v

/-- All lines of a stream. -/
partial def readAll (stream : IO.FS.Stream) (acc : String) : IO String := do
  let line ← stream.getLine
  if line.isEmpty then pure acc else readAll stream (acc ++ line)

end ContractAudit

open ContractAudit in
/-- Runs the command of the arguments. -/
def main (args : List String) : IO UInt32 := do
  let recording := recordingOfText (← readAll (← IO.getStdin) "")
  let outcome := runArguments recording args
  (← IO.getStdout).putStr outcome.progress.output
  pure (UInt32.ofNat outcome.exitCode)
