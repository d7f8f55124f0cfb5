/-
  The file that a finding points into, and its text.

  * `fileAt` looks a file index up in a source list.  The service sometimes puts a slash in front of
    a path; it is dropped when only the bare path is known.
  * `sourceText?` finds the text of a path among the sources, which are texts or objects that hold
    one.
  * `fileIn` and `textIn` do the same for indexes, lists and sources of any kind.
-/
import ContractAudit.Json.Access
import ContractAudit.Json.Literal

namespace ContractAudit

/-- A file index that names no file of the source list. -/
structure UnlistedFile where
  index : Json
  files : List Json

/-- The message of the error. -/
def UnlistedFile.message (e : UnlistedFile) : String :=
  "Source index " ++ e.index.display ++ " is not in the source list (" ++
    Text.showInt e.files.length ++ " file(s))"

/-- The path without a slash that the service put in front of it. -/
def knownPath (known : List String) (path : String) : String :=
  match path.toList with
  | '/' :: bare =>
    if path ∉ known ∧ String.ofList bare ∈ known then String.ofList bare else path
  | _ => path

/-- The path of a file index. -/
def fileAt (index : Int) (files known : List String) : Except UnlistedFile String :=
  let unlisted : UnlistedFile := ⟨.int index, files.map .str⟩
  if index < 0 then .error unlisted
  else
    match files[index.toNat]? with
    | some path => .ok (knownPath known path)
    | none => .error unlisted

/-- The text in a source entry: the entry itself, or what it holds as `content` or, if it has no
such member, as `source`. -/
def entryText? : Json → Option String
  | .str s => some s
  | .obj ms =>
    match (Keyed.lookup? "content" ms).or (Keyed.lookup? "source" ms) with
    | some (.str s) => some s
    | _ => none
  | _ => none

/-- The text of a path. -/
def sourceText? (sources : Json.Members) (path : String) : Option String :=
  (Keyed.lookup? path sources).bind entryText?

/-- The path that a value names among sources of any kind; without sources it is the value. -/
def pathIn (sources path : Json) : Except Defect Json :=
  match sources with
  | .null => .ok path
  | sources => do
    if ← sources.holds path then return path
    match (← path.asText).toList with
    | '/' :: bare =>
      let bare := Json.str (String.ofList bare)
      if ← sources.holds bare then pure bare else pure path
    | _ => pure path

/-- The path of an index of any kind in a list of any kind. -/
def fileIn (index files sources : Json) : Except (Fault UnlistedFile) Json := do
  if ← index.less (.int 0) then failWith ⟨index, ← files.elements⟩
  if ← index.less (.int (← files.size)) then pathIn sources (← files.select index)
  else failWith ⟨index, ← files.elements⟩

/-- The text of a path of any kind among sources of any kind. -/
def textIn (sources path : Json) : Except Defect (Option String) := do
  pure ((← sources.at? path).bind entryText?)

end ContractAudit
