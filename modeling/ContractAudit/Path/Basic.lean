/-
  Paths of files.

  * `joined` puts a relative path behind a directory; an absolute one replaces it.
  * `normal` settles empty, `.` and `..` components by the text alone; an absolute path does not
    climb above the root, and two slashes at its start stay.
  * `tidy` drops empty and `.` components only.
  * `belowDirectory?` writes a path relative to a directory above it.
-/
import ContractAudit.Text.Line

namespace ContractAudit.Path

/-- Whether a path holds the null character, at which paths end for the system. -/
def hasNull (p : String) : Bool :=
  p.toList.contains '\x00'

/-- Whether a path starts at the root. -/
def isAbsolute (p : String) : Bool :=
  p.startsWith "/"

/-- The slashes at the start of a path: two are kept, three or more count as one. -/
def root (p : String) : String :=
  if isAbsolute p then
    if p.startsWith "//" && !p.startsWith "///" then "//" else "/"
  else ""

/-- The components of a path, as written between slashes. -/
def components (p : String) : List String :=
  (p.toList.splitOn '/').map String.ofList

/-- The path of some components, `.` if there are none. -/
def ofParts (root : String) (parts : List String) : String :=
  if root = "" ∧ parts.isEmpty then "." else root ++ Text.joined "/" parts

/-- The components that name something. -/
def parts (p : String) : List String :=
  (components p).filter fun c => c != "" && c != "."

/-- The path without empty and `.` components. -/
def tidy (p : String) : String :=
  ofParts (root p) (parts p)

/-- Settles `..` components against those before them, which `acc` holds, last one first. -/
def settle (isRooted : Bool) (acc : List String) : List String → List String
  | [] => acc.reverse
  | c :: rest =>
    if c = ".." then
      match acc with
      | [] => settle isRooted (if isRooted then [] else [".."]) rest
      | d :: acc' =>
        if d = ".." then settle isRooted (".." :: d :: acc') rest else settle isRooted acc' rest
    else settle isRooted (c :: acc) rest

/-- The path with all of its components settled. -/
def normal (p : String) : String :=
  ofParts (root p) (settle (isAbsolute p) [] (parts p))

/-- The path `p` seen from the directory `dir`, as it is written. -/
def joined (dir p : String) : String :=
  if isAbsolute p then p
  else if dir = "" ∨ dir.endsWith "/" then dir ++ p
  else dir ++ "/" ++ p

/-- The path `p` seen from the directory `dir`, without empty and `.` components. -/
def under (dir p : String) : String :=
  if isAbsolute p then tidy p else ofParts (root dir) (parts dir ++ parts p)

/-- What stands before the last slash, without the slashes at its end. -/
def directory (p : String) : String :=
  let cs := p.toList
  let head := (cs.reverse.dropWhile (· != '/')).reverse
  if head.all (· == '/') then String.ofList head
  else String.ofList (head.reverse.dropWhile (· == '/')).reverse

/-- The directory of a file: the path without its last component. -/
def parent (p : String) : String :=
  ofParts (root p) (parts p).dropLast

/-- The path without links and `..`, seen from the working directory. -/
def resolved (cwd p : String) : String :=
  let all := if isAbsolute p then parts p else parts cwd ++ parts p
  "/" ++ Text.joined "/" (settle true [] all)

/-- The path relative to the directory `dir`, if it lies in it. -/
def belowDirectory? (dir p : String) : Option String :=
  (parts dir).isPrefixOf? (parts p) |>.map (ofParts "")

/-- A path as reports show it: relative to the working directory if it lies below, else as given,
with slashes for backslashes. -/
def shortened (cwd p : String) : String :=
  let given := p.map fun c => if c == '\\' then '/' else c
  if hasNull p then given
  else (belowDirectory? cwd (resolved cwd p)).getD given

end ContractAudit.Path
