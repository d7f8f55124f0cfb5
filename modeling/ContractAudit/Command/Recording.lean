/-
  Recordings: what surrounds a run of a command.

  * A `Recording` holds the environment, the files, what the compiler gives back and the replies of
    the service.  `Recording.ofMembers` reads one from JSON; what is missing is empty, and without a
    compiler there is none.
-/
import ContractAudit.Json.Writer
import ContractAudit.Path.Tree
import ContractAudit.Service.Client
import ContractAudit.Solidity.Compiler

namespace ContractAudit

/-- What surrounds a run. -/
structure Recording where
  /-- The working directory. -/
  directory : String
  environment : Json.Members := []
  files : FileTree
  compiler : Solidity.CompilerRun := .missing
  replies : List Service.Reply := []

namespace Recording

/-- The member of a name, or null. -/
def member (v : Json) (key : String) : Json :=
  Service.memberOrNull v key

/-- The text that a value is, and no text of any other value. -/
def textOf : Json → String
  | .str s => s
  | _ => ""

/-- The elements of an array, and none of any other value. -/
def elementsOf : Json → List Json
  | .arr xs => xs
  | _ => []

/-- The members of an object, and none of any other value. -/
def membersOf : Json → Json.Members
  | .obj ms => ms
  | _ => []

/-- The integer that a value is, or another one. -/
def integerOr (default : Int) : Json → Int
  | .int n => n
  | _ => default

/-- The bytes of hexadecimal digits. -/
def hexBytes : List Char → List UInt8
  | a :: b :: rest => UInt8.ofNat ((Text.readHex? [a, b]).getD 0) :: hexBytes rest
  | _ => []

/-- The bytes that a value describes: those of a text, or hexadecimal digits. -/
def bytesOf : Json → List UInt8
  | .str s => Text.Utf8.encode s
  | v => hexBytes (textOf (member v "hex")).toList

/-- The tree of some files, by their paths from a directory. -/
def fileTree (directory : String) (files : Json) : FileTree :=
  let place (path : String) := Path.parts (Path.resolved directory path)
  { directory
    entries := (place "", .directory) :: (membersOf files).map fun (path, v) =>
      (place path, if (member v "dir").isSet then .directory else .file (bytesOf v)) }

/-- What a program wrote: the member `json` in its written form, or else a text. -/
def written (v : Json) (key : String) : String :=
  match v with
  | .obj ms =>
    match Keyed.lookup? "json" ms with
    | some j => j.write Json.requestLayout
    | none => textOf (member v key)
  | _ => ""

/-- A run of the compiler. -/
def compilerRun (v : Json) : Solidity.CompilerRun :=
  if !v.isSet || (member v "missing").isSet then .missing
  else .finished (integerOr 0 (member v "returncode")) (written v "stdout")
    (textOf (member v "stderr"))

/-- The failures of the transport after which no answer is to come. -/
def transportFailures : List String := ["RequestException", "HTTPError", "ConnectionError",
  "Timeout", "ConnectTimeout", "ReadTimeout", "TooManyRedirects", "URLRequired"]

/-- A reply of the service. -/
def reply (v : Json) : Service.Reply :=
  match member v "raise" with
  | .null => .answer (integerOr 200 (member v "status")) (written v "text")
  | .str failure =>
    if transportFailures.contains failure then .lost (textOf (member v "text"))
    else .broken .noMember
  | _ => .broken .wrongKind

/-- Reads a recording. -/
def ofMembers (directory : String) (v : Json) : Recording :=
  { directory
    environment := membersOf (member v "env")
    files := fileTree directory (member v "files")
    compiler := compilerRun (member v "solc")
    replies := (elementsOf (member v "responses")).map reply }

end Recording

end ContractAudit
