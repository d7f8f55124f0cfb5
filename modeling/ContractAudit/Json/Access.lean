/-
  Asking values of unknown shape.

  The answers of the compiler and of the service are used before anything is known about their
  shape.  Each operation here either answers or fails with the `Defect` of that use.

  * `get?` asks for a member, `elements` for what a loop runs over, `size` for the number of these,
    `asText` for a text to work on, `holds`, `at?` and `select` for what lies under a key or at a
    position; lists and objects are no keys;
  * `orElse` replaces a value that holds nothing, and `toMembers` makes members of pairs.
-/
import ContractAudit.Json.Literal
import ContractAudit.Json.Order
import ContractAudit.Text.Line

namespace ContractAudit.Json

/-- The members of an object. -/
def asMembers : Json → Except Defect Members
  | obj ms => .ok ms
  | _ => .error .noMember

/-- The member of an object, if it has one of that name. -/
def get? (v : Json) (key : String) : Except Defect (Option Json) :=
  v.asMembers.map (Keyed.lookup? key)

/-- The member of an object, or null. -/
def get (v : Json) (key : String) : Except Defect Json :=
  (v.get? key).map (·.getD null)

/-- A text. -/
def asText : Json → Except Defect String
  | str s => .ok s
  | _ => .error .noMember

/-- What a loop over the value runs through: elements, characters or keys. -/
def elements : Json → Except Defect (List Json)
  | arr xs => .ok xs
  | str s => .ok (s.toList.map fun c => str (String.singleton c))
  | obj ms => .ok (ms.map fun m => str m.1)
  | _ => .error .wrongKind

/-- The number of elements, characters or members. -/
def size (v : Json) : Except Defect Nat :=
  v.elements.map List.length

/-- The value, or the other one if it holds nothing. -/
def orElse (v other : Json) : Json :=
  if v.isSet then v else other

/-- The member under a key of any kind; only texts are keys of objects. -/
def memberAt? (ms : Members) : Json → Except Defect (Option Json)
  | str s => .ok (Keyed.lookup? s ms)
  | arr _ | obj _ => .error .wrongKind
  | _ => .ok none

/-- The member of an object under a key of any kind, if it has one. -/
def at? (v key : Json) : Except Defect (Option Json) := do
  memberAt? (← v.asMembers) key

/-- Whether `x` is among what the value holds: a key of an object, an element of a list, or a part
of a text. -/
def holds (v x : Json) : Except Defect Bool :=
  match v, x with
  | obj ms, x => (memberAt? ms x).map (·.isSome)
  | arr xs, x => .ok (xs.any x.same)
  | str s, str t => .ok (Text.occursIn t.toList s.toList)
  | _, _ => .error .wrongKind

/-- What the value holds under a key or at a position, negative ones counting from the end. -/
def select (v key : Json) : Except Defect Json :=
  match v, key with
  | obj ms, key => do
    match ← memberAt? ms key with
    | some x => pure x
    | none => throw .noKey
  | arr xs, int n => element xs n
  | arr xs, bool b => element xs (if b then 1 else 0)
  | str s, int n => element (s.toList.map fun c => str (String.singleton c)) n
  | str s, bool b => element (s.toList.map fun c => str (String.singleton c)) (if b then 1 else 0)
  | _, _ => .error .wrongKind
where
  /-- The element at a position. -/
  element (xs : List Json) (n : Int) : Except Defect Json :=
    match if n < 0 then n + xs.length else n with
    | .ofNat i => match xs[i]? with
      | some x => .ok x
      | none => .error .noElement
    | .negSucc _ => .error .noElement

/-- The member that a pair is: a key and a value. -/
def asMember (pair : Json) : Except Defect (String × Json) := do
  match ← pair.elements with
  | [arr _, _] | [obj _, _] => throw .wrongKind
  | [key, value] => pure (key.keyText, value)
  | _ => throw .outOfDomain

/-- The members of an object, or those that a list of pairs makes: the last value of a repeated key
at the place of the first. -/
def toMembers : Json → Except Defect Members
  | obj ms => .ok ms
  | v => do
    (← v.elements).foldlM (fun ms pair => do
      let (key, value) ← pair.asMember
      pure (Keyed.insert key value ms)) []

/-- Whether the value is an object. -/
def isObject : Json → Bool
  | obj _ => true
  | _ => false

end ContractAudit.Json
