/-
  Source units: the files that a main file imports, directly or through others.

  * The compiler knows a file by the name of its unit: a path that starts with a dot is taken from
    the name of the importing unit, any other one is the name itself.  `locate` finds the name and
    the file of an import.
  * `sourcesBy` reads the main file and all units that it needs, by an operation that reads one;
    `sourcesOf` reads them from a tree of files.
-/
import ContractAudit.Keyed
import ContractAudit.Solidity.Error
import ContractAudit.Solidity.Import

namespace ContractAudit.Solidity

/-- A source unit by name, and the file that holds it. -/
structure SourceUnit where
  name : String
  file : String
deriving DecidableEq, Repr

/-- Where packages are installed, below the base directory. -/
def packageFolder : String := "node_modules"

/-- The unit that `imported` names inside the unit `importing`: relative to it, or else below the
directory `base`, or in a package there. -/
def locate (t : FileTree) (base : String) (importing : SourceUnit) (imported : String) :
    Except Defect SourceUnit :=
  if imported.startsWith "." then
    .ok { name := Path.normal (Path.joined (Path.directory importing.name) imported)
          file := Path.under (Path.parent importing.file) imported }
  else do
    let own := Path.under base imported
    let packaged := Path.under (Path.under base packageFolder) imported
    let isOwn ← t.isFile own
    if isOwn then return { name := imported, file := own }
    let isPackaged ← t.isFile packaged
    pure { name := imported, file := if isPackaged then packaged else own }

/-- The units that `u` imports, whose text is given. -/
def importedUnits (t : FileTree) (base : String) (u : SourceUnit) (text : String) :
    Except Defect (List SourceUnit) :=
  (importPaths text).mapM (locate t base u)

/-- The text of a unit. -/
def readUnit (t : FileTree) (u : SourceUnit) : Except (Fault CompileError) String :=
  match t.read u.file with
  | .ok text => .ok text
  | .error (.error reason) => failWith (.unreadable u.file reason)
  | .error (.defect d) => .error (.defect d)

/-- The unit of the file at `path`: its path without links is the name. -/
def mainUnit (cwd path : String) : SourceUnit :=
  { name := Path.resolved cwd path, file := Path.resolved cwd path }

/-- A bound on the names of the units of a search that can be read: as many as a main unit and the
directives in all files can have, and for each of these, for each file and for two numbers of
components below the bound on paths, one more. -/
def nameBound (t : FileTree) : Nat :=
  (t.weight + 1) * (t.entries.length * ((FileTree.pathBound + 1) * (FileTree.pathBound + 1)) + 1)

/-- A bound on the units that a search looks at: the main unit, and for each name as many imports as
there are bytes. -/
def searchBound (t : FileTree) : Nat :=
  nameBound t * t.weight + 1

section
variable {m : Type → Type} [Monad m] [MonadExceptOf (Fault CompileError) m]

/-- Reads the pending units and those that they import, the last import first; `reads` reads one.
`fuel` bounds the number of units looked at. -/
def gather (reads : SourceUnit → m String) (t : FileTree) (base : String) :
    (fuel : Nat) → (sources : Keyed String) → (pending : List SourceUnit) → m (Keyed String)
  | _, sources, [] => pure sources
  | 0, _, _ :: _ => throw (.defect .endless)
  | fuel + 1, sources, u :: pending =>
    if (Keyed.lookup? u.name sources).isSome then gather reads t base fuel sources pending
    else do
      let text ← reads u
      match importedUnits t base u text with
      | .error d => throw (.defect d)
      | .ok imports =>
        gather reads t base fuel (sources ++ [(u.name, text)]) (imports.reverse ++ pending)

/-- The texts of the file at `path` and of all that it imports, by unit name, as `reads` reads them.
Without a base directory that of the file is taken. -/
def sourcesBy (reads : SourceUnit → m String) (t : FileTree) (path : String)
    (base : Option String) : m (Keyed String) :=
  if Path.hasNull path then throw (.defect .outOfDomain)
  else
    let main := mainUnit t.directory path
    gather reads t (base.getD (Path.parent main.name)) (searchBound t) [] [main]

end

/-- The texts of the file at `path` and of all that it imports, by unit name, seen from the working
directory `cwd`. -/
def sourcesOf (t : FileTree) (cwd path : String) (base : Option String) :
    Except (Fault CompileError) (Keyed String) :=
  let t := { t with directory := cwd }
  sourcesBy (readUnit t) t path base

end ContractAudit.Solidity
