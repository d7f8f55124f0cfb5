/-
  Equality and order of values.

  * `same` compares values by what they are: numbers of all forms by their exact values, truth
    values as zero and one, lists element by element, objects without regard to order.
  * `less` orders numbers, texts by code points, and lists by their first elements that are not the
    same.  Nothing else has an order.
  * `sortBy` sorts by such an order and keeps the order of what is equal; it fails if two values
    have no common order.
  * `distinct` drops what is equal to an earlier element of a list.
-/
import ContractAudit.Decimal.Ratio
import ContractAudit.Defect

namespace ContractAudit.Json

/-- The number that a value is. -/
def ratio? : Json → Option Ratio
  | int n => some (.ofInt n)
  | bool b => some (.ofInt (if b then 1 else 0))
  | float x => some (.ofFloat x)
  | _ => none

mutual

/-- Whether two values are equal. -/
def same : Json → Json → Bool
  | null, null => true
  | str s, str t => s == t
  | arr xs, arr ys => sameItems xs ys
  | obj ms, obj ns => ms.length == ns.length && sameMembers ms ns
  | v, w =>
    match v.ratio?, w.ratio? with
    | some a, some b => a.same b
    | _, _ => false

/-- Whether the elements of two lists are equal. -/
def sameItems : List Json → List Json → Bool
  | [], [] => true
  | x :: xs, y :: ys => same x y && sameItems xs ys
  | _, _ => false

/-- Whether each member has an equal one in the other object. -/
def sameMembers : List (String × Json) → List (String × Json) → Bool
  | [], _ => true
  | (k, v) :: ms, ns =>
    (match Keyed.lookup? k ns with
      | some w => same v w
      | none => false) && sameMembers ms ns

end

mutual

/-- Whether the first value comes before the second one. -/
def less : Json → Json → Except Defect Bool
  | str s, str t => .ok (s < t)
  | arr xs, arr ys => lessItems xs ys
  | v, w =>
    match v.ratio?, w.ratio? with
    | some a, some b => .ok (a.less b)
    | _, _ => .error .wrongKind

/-- Whether the first list comes before the second one. -/
def lessItems : List Json → List Json → Except Defect Bool
  | _, [] => .ok false
  | [], _ :: _ => .ok true
  | x :: xs, y :: ys => if same x y then lessItems xs ys else less x y

end

/-- Whether any two of the keys have an order. -/
def checkOrdered : List Json → Except Defect Unit
  | [] => .ok ()
  | k :: ks => do
    ks.forM fun l => do discard (k.less l)
    checkOrdered ks

/-- The elements in the order of their keys. A single element needs no order. -/
def sortBy {α : Type} (pairs : List (Json × α)) : Except Defect (List α) := do
  checkOrdered (pairs.map (·.1))
  pure ((pairs.mergeSort fun a b => !((b.1.less a.1).toOption.getD false)).map (·.2))

/-- The elements, each the first of its equals. -/
def distinct (xs : List Json) : List Json :=
  xs.foldl (fun seen x => if seen.any x.same then seen else seen ++ [x]) []

end ContractAudit.Json
