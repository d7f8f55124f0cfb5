/-
  Searches that take the pending imports in any order.

  * An `Order` arranges the pending units; the first one is looked at next.  `gatherIn` and
    `sourcesIn` search in a given order, and the search of the program is the one in the order
    `Order.lastFirst` (`gatherIn_lastFirst`, `sourcesIn_lastFirst`).
  * `exists_visits`: what such a search gathers are units that it visits.
-/
import ContractAudit.Proofs.Solidity.Closure

namespace ContractAudit.Solidity

/-! ## Orders -/

/-- An order in which a search takes what is pending, which may depend on what it found so far. -/
structure Order where
  arrange : Keyed String → List SourceUnit → List SourceUnit
  perm : ∀ sources pending, (arrange sources pending).Perm pending

/-- What was found last comes first. -/
def Order.lastFirst : Order where
  arrange _ pending := pending
  perm _ pending := .refl pending

/-- What was found first comes first. -/
def Order.firstFirst : Order where
  arrange _ pending := pending.reverse
  perm _ pending := pending.reverse_perm

section
variable {m : Type → Type} [Monad m] [MonadExceptOf (Fault CompileError) m]

/-- Reads the pending units and those that they import, as `gather` does, but in an order. -/
def gatherIn (order : Order) (reads : SourceUnit → m String) (t : FileTree) (base : String) :
    (fuel : Nat) → (sources : Keyed String) → (pending : List SourceUnit) → m (Keyed String)
  | 0, sources, pending =>
    match order.arrange sources pending with
    | [] => pure sources
    | _ :: _ => throw (.defect .endless)
  | fuel + 1, sources, pending =>
    match order.arrange sources pending with
    | [] => pure sources
    | u :: rest =>
      if (Keyed.lookup? u.name sources).isSome then gatherIn order reads t base fuel sources rest
      else do
        let text ← reads u
        match importedUnits t base u text with
        | .error d => throw (.defect d)
        | .ok imports =>
          gatherIn order reads t base fuel (sources ++ [(u.name, text)]) (imports.reverse ++ rest)

section
variable {order : Order} {reads : SourceUnit → m String} {t : FileTree} {base : String}
  {sources : Keyed String} {pending rest : List SourceUnit} {u : SourceUnit}

theorem gatherIn_of_nil (h : order.arrange sources pending = []) (fuel : Nat) :
    gatherIn order reads t base fuel sources pending = pure sources := by
  cases fuel <;> rw [gatherIn, h]

theorem gatherIn_of_cons (h : order.arrange sources pending = u :: rest) (fuel : Nat) :
    gatherIn order reads t base (fuel + 1) sources pending =
      if (Keyed.lookup? u.name sources).isSome then gatherIn order reads t base fuel sources rest
      else reads u >>= fun text =>
        match importedUnits t base u text with
        | .error d => throw (.defect d)
        | .ok imports =>
          gatherIn order reads t base fuel (sources ++ [(u.name, text)])
            (imports.reverse ++ rest) := by
  rw [gatherIn, h]

end

/-- **The search takes the last import first.** -/
theorem gatherIn_lastFirst (reads : SourceUnit → m String) (t : FileTree) (base : String)
    (fuel : Nat) (sources : Keyed String) (pending : List SourceUnit) :
    gatherIn .lastFirst reads t base fuel sources pending =
      gather reads t base fuel sources pending := by
  induction fuel generalizing sources pending with
  | zero => cases pending <;> rfl
  | succ fuel ih =>
    cases pending with
    | nil => rfl
    | cons u pending =>
      simp only [gather, ← ih]
      rfl

end

/-- The texts of the file at `path` and of all that it imports, by unit name, if the imports are
taken in an order. -/
def sourcesIn (order : Order) (t : FileTree) (cwd path : String) (base : Option String) :
    Except (Fault CompileError) (Keyed String) :=
  let t := { t with directory := cwd }
  if Path.hasNull path then throw (.defect .outOfDomain)
  else
    let main := mainUnit cwd path
    gatherIn order (readUnit t) t (base.getD (Path.parent main.name)) (searchBound t) [] [main]

theorem sourcesIn_lastFirst (t : FileTree) (cwd path : String) (base : Option String) :
    sourcesIn .lastFirst t cwd path base = sourcesOf t cwd path base := by
  rw [sourcesIn, sourcesOf, sourcesBy, gatherIn_lastFirst]

/-! ## Units that are read -/

section
variable {order : Order} {t : FileTree} {base : String} {u : SourceUnit} {rest : List SourceUnit}
  {sources : Keyed String} {pending : List SourceUnit}

theorem Order.perm_cons (h : order.arrange sources pending = u :: rest) :
    pending.Perm (u :: rest) :=
  h ▸ (order.perm sources pending).symm

theorem Order.eq_nil (h : order.arrange sources pending = []) : pending = [] :=
  List.nil_perm.1 (h ▸ order.perm sources pending)

/-- **What a search gathers is what it visits**, in any order. -/
theorem exists_visits {fuel : Nat} {result : Keyed String}
    (h : gatherIn order (readUnit t) t base fuel sources pending = .ok result) :
    ∃ opened, Visits t base (Keyed.keys sources) pending opened ∧
      result = sources ++ opened.map Opened.entry := by
  induction fuel generalizing sources pending with
  | zero =>
    rw [gatherIn] at h
    split at h
    · next hnext =>
      cases h
      exact ⟨[], order.eq_nil hnext ▸ .done, by simp⟩
    · cases h
  | succ fuel ih =>
    cases hnext : order.arrange sources pending with
    | nil =>
      rw [gatherIn_of_nil hnext] at h
      cases h
      exact ⟨[], order.eq_nil hnext ▸ .done, by simp⟩
    | cons u rest =>
      have hperm := order.perm_cons hnext
      rw [gatherIn_of_cons hnext] at h
      split at h
      · next hseen =>
        obtain ⟨opened, hvisits, hresult⟩ := ih h
        have hknown : u.name ∈ Keyed.keys sources := by simpa [Keyed.isSome_lookup?] using hseen
        exact ⟨opened, .known hperm hknown hvisits, hresult⟩
      · next hseen =>
        have hnew : u.name ∉ Keyed.keys sources := by simpa [Keyed.isSome_lookup?] using hseen
        cases hread : readUnit t u with
        | error e =>
          rw [hread] at h
          cases h
        | ok text =>
          rw [hread, ok_bind] at h
          cases himports : importedUnits t base u text with
          | error d =>
            rw [himports] at h
            cases h
          | ok imports =>
            rw [himports] at h
            obtain ⟨opened, hvisits, hresult⟩ := ih h
            rw [Keyed.keys, List.map_append] at hvisits
            exact ⟨⟨u, text, imports⟩ :: opened,
              .next hperm hnew (readUnit_eq_ok hread) himports hvisits,
              by simp [hresult, Opened.entry]⟩

end

end ContractAudit.Solidity
