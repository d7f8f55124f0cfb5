/-
  Trees of files.

  * A `FileTree` lists files and directories by the components of their absolute paths; whatever
    lies above an entry is a directory.  There are no links.
  * `FileTree.find` follows a path component by component, as it is written: `..` leads out of a
    directory that exists, at most up to the root.  A relative path starts at the working directory.
  * `FileTree.read` is the text of a file, with every line break a line feed.
-/
import ContractAudit.Defect
import ContractAudit.Path.Basic
import ContractAudit.Text.Numeral
import ContractAudit.Text.Quoted
import ContractAudit.Text.Utf8
import ContractAudit.Total

namespace ContractAudit

/-- What a path leads to. -/
inductive FileEntry where
  | file (bytes : List UInt8)
  | directory
deriving DecidableEq

/-- Files and directories, each under the components of its path. -/
structure FileTree where
  entries : List (List String × FileEntry)
  /-- The working directory, from which relative paths are seen. -/
  directory : String := "/"

/-- Why a path leads to no file. -/
inductive FileError where
  | missing
  | notDirectory
  | isDirectory
  | nameTooLong
deriving DecidableEq, Repr

namespace FileError

/-- The number of the error. -/
def number : FileError → Nat
  | missing => 2
  | notDirectory => 20
  | isDirectory => 21
  | nameTooLong => 36

/-- The error in words. -/
def reason : FileError → String
  | missing => "No such file or directory"
  | notDirectory => "Not a directory"
  | isDirectory => "Is a directory"
  | nameTooLong => "File name too long"

/-- The message about a path. -/
def message (e : FileError) (path : String) : String :=
  "[Errno " ++ Text.showInt e.number ++ "] " ++ e.reason ++ ": " ++ Text.quoted path

end FileError

namespace FileTree

/-- The greatest number of bytes in a component. -/
def maxComponent : Nat := 255

/-- The number of bytes that no path reaches. -/
def pathBound : Nat := 4096

/-- What lies at a place. -/
def entryAt? (t : FileTree) (place : List String) : Option FileEntry :=
  match t.entries.find? fun e => e.1 == place with
  | some e => some e.2
  | none => if t.entries.any fun e => place.isPrefixOf e.1 then some .directory else none

/-- Follows components from the directory at `place`. -/
def follow (t : FileTree) (place : List String) : List String → Except FileError FileEntry
  | [] => .ok .directory
  | c :: rest =>
    if c = ".." then t.follow place.dropLast rest
    else if maxComponent < c.utf8ByteSize then .error .nameTooLong
    else
      match t.entryAt? (place ++ [c]) with
      | none => .error .missing
      | some .directory => t.follow (place ++ [c]) rest
      | some (.file bytes) => if rest.isEmpty then .ok (.file bytes) else .error .notDirectory

/-- What a path leads to. -/
def find (t : FileTree) (path : String) : Except FileError FileEntry :=
  if pathBound ≤ path.utf8ByteSize then .error .nameTooLong
  else if Path.isAbsolute path then t.follow [] (Path.parts path)
  else t.follow [] (Path.parts t.directory ++ Path.parts path)

/-- Whether a path leads to a file. -/
def isFile (t : FileTree) (path : String) : Except Defect Bool :=
  if Path.hasNull path then .ok false
  else
    match t.find path with
    | .ok (.file _) => .ok true
    | .ok .directory => .ok false
    | .error .nameTooLong => .error .unsearchable
    | .error _ => .ok false

/-- The text of the file that a path leads to. -/
def read (t : FileTree) (path : String) : Except (Fault FileError) String :=
  if Path.hasNull path then .error (.defect .outOfDomain)
  else
    match t.find path with
    | .error e => failWith e
    | .ok .directory => failWith .isDirectory
    | .ok (.file bytes) =>
      match Text.Utf8.decode? bytes with
      | some s => .ok (String.ofList (Text.unifyBreaks s.toList))
      | none => .error (.defect .undecodable)

/-- The number of bytes in all files. -/
def weight (t : FileTree) : Nat :=
  total (t.entries.map fun | (_, .file bytes) => bytes.length | (_, .directory) => 0)

end FileTree

end ContractAudit
