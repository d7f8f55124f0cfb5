/-
  JSON values.

  * Objects keep the order of their members, and whole numbers are told apart from numbers written
    with a fraction or an exponent.
  * `isSet` tells a value that holds something from null, false, zero and the empty containers.
  * `height` counts the levels on which values lie within a value.

  A string is a sequence of Unicode characters, without halves of surrogate pairs.
-/
import ContractAudit.Keyed

namespace ContractAudit

/-- A JSON value. -/
inductive Json where
  | null
  | bool (b : Bool)
  | int (n : Int)
  | float (x : Float)
  | str (s : String)
  | arr (items : List Json)
  | obj (members : List (String × Json))
deriving Inhabited

namespace Json

/-- The members of an object, in order. -/
abbrev Members := Keyed Json

/-- The object of the pairs, the last value of a repeated key at the place of the first. -/
def ofPairs (pairs : List (String × Json)) : Json :=
  obj (pairs.foldl (fun ms p => Keyed.insert p.1 p.2 ms) [])

/-- Whether a value holds something: null, false, zero and what is empty do not. -/
def isSet : Json → Bool
  | null => false
  | bool b => b
  | int n => n != 0
  | float x => x != 0
  | str s => s != ""
  | arr items => !items.isEmpty
  | obj members => !members.isEmpty

mutual

/-- The number of levels on which values lie within a value, its own level included. -/
def height : Json → Nat
  | arr items => 1 + tallest items
  | obj members => 1 + tallestMember members
  | _ => 1

/-- The greatest height of the elements of an array. -/
def tallest : List Json → Nat
  | [] => 0
  | x :: xs => max x.height (tallest xs)

/-- The greatest height of the values of the members of an object. -/
def tallestMember : List (String × Json) → Nat
  | [] => 0
  | (_, v) :: ms => max v.height (tallestMember ms)

end

/-- The array of texts. -/
def texts (xs : List String) : Json :=
  arr (xs.map str)

/-- A text, or null. -/
def ofText? : Option String → Json
  | some s => str s
  | none => null

end Json

end ContractAudit
