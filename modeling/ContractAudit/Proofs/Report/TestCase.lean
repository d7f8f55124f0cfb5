/-
  Diagnostics that the full text report can show.

  What a test case holds may be any value.  Each part of it may be missing or hold nothing; else it
  has to be of the kind that is shown there.

  * `TestCase.isShown` tells which objects can be shown as test cases, and `Finding.showsTestCases`
    which findings have no other ones.  All others fail (`returns_text`, `returns_testCases`);
  * `Diagnostic.HasNumerals`: the numbers of the place are short enough to be written
    (`returns_checkPlace`);
  * `returns_narrative`: the report is written iff each of its diagnostics can be shown.
-/
import Mathlib.Algebra.Ring.Nat
import ContractAudit.Proofs.Finding.Reports
import ContractAudit.Proofs.Text.Numeral
import ContractAudit.Report.Narrative

namespace ContractAudit

open Issue (memberOf)

/-! ## Records -/

namespace Json

/-- Whether the value is an object and `p` holds of its members, or it holds nothing. -/
def isRecord (p : Members → Bool) : Json → Bool
  | obj ms => p ms
  | v => !v.isSet

theorem isRecord_of_not_isSet {p : Members → Bool} (hp : p [] = true) {v : Json}
    (h : ¬ v.isSet = true) : v.isRecord p = true := by
  cases v with
  | obj ms =>
    obtain rfl : ms = [] := by simpa [isSet] using h
    exact hp
  | _ => simp [isRecord, h]

theorem isRecord_iff {p : Members → Bool} (hp : p [] = true) {v : Json} :
    v.isRecord p = true ↔ ∃ ms, (v.orElse (obj [])).asMembers = .ok ms ∧ p ms = true := by
  rw [orElse]
  split
  · next h => cases v <;> simp_all [isRecord, asMembers]
  · next h => simp [isRecord_of_not_isSet hp h, asMembers, hp]

theorem returns_asMembers {v : Json} : Returns v.asMembers ↔ v.isObject = true := by
  cases v <;> simp [asMembers, isObject]

theorem returns_get {v : Json} {key : String} : Returns (v.get key) ↔ v.isObject = true := by
  rw [get, Returns.map_iff, get?, Returns.map_iff, returns_asMembers]

theorem get_obj (ms : Members) (key : String) : (obj ms).get key = .ok (memberOf ms key) :=
  rfl

end Json

/-! ## Test cases -/

namespace TestCase

/-- Whether the value can be shown as what is known of an account. -/
def isAccount : Json → Bool :=
  Json.isRecord fun _ => true

/-- Whether the value can be shown as the state before the first transaction: what it has for
accounts can be shown, and so can each of these. -/
def isState : Json → Bool :=
  Json.isRecord fun ms => (memberOf ms "accounts").isRecord fun accounts =>
    accounts.all fun a => isAccount a.2

/-- Whether the value can be shown as transactions: it is a list of objects, or it holds nothing. -/
def areSteps : Json → Bool
  | .arr steps => steps.all Json.isObject
  | v => !v.isSet

/-- Whether the object can be shown as a test case. -/
def isShown (ms : Json.Members) : Bool :=
  isState (memberOf ms "initialState") && areSteps (memberOf ms "steps")

theorem returns_accountLines {address : String} {data : Json} :
    Returns (accountLines address data) ↔ isAccount data = true := by
  have hmembers : isAccount data = true ↔ Returns (data.orElse (.obj [])).asMembers := by
    rw [isAccount, Json.isRecord_iff rfl]
    simp [Returns]
  have hget (key : String) : Returns (do
      let v ← (data.orElse (.obj [])).get key
      pure ("    " ++ key ++ ": " ++ valueText v) : Except Defect String) ↔
        isAccount data = true := by
    rw [Returns.bind_iff_of_returns fun _ => .pure _, Json.returns_get, hmembers,
      Json.returns_asMembers]
  rw [accountLines, Returns.bind_iff_of_returns fun _ => .pure _, Returns.mapM_iff]
  simp only [hget]
  simp

/-- A state that holds something is shown iff it is an object whose accounts can be shown. -/
theorem returns_initialState {state : Json} (h : state.isSet = true) :
    Returns (initialState state) ↔ isState state = true := by
  cases state with
  | obj ms =>
    have haccounts : (∀ accounts : Json.Members,
        accounts.all (fun a => isAccount a.2) = true ↔
          ∀ a ∈ accounts, Returns (accountLines a.1 a.2)) := fun accounts => by
      simp only [List.all_eq_true, returns_accountLines]
    rw [initialState, Json.get_obj, ok_bind, isState, Json.isRecord,
      Json.isRecord_iff List.all_nil, Returns.bind_iff]
    refine exists_congr fun accounts => and_congr_right fun _ => ?_
    rw [haccounts, Returns.bind_iff_of_returns fun _ => .pure _, Returns.mapM_iff]
  | _ =>
    simp [initialState, isState, Json.isRecord, Json.get, Json.get?, Json.asMembers, Except.map, h]

theorem returns_stepLines {index : Nat} {step : Json} :
    Returns (stepLines index step) ↔ step.isObject = true := by
  cases step with
  | obj ms =>
    refine iff_of_true ?_ rfl
    simp only [stepLines, Json.get_obj, Json.get?, Json.asMembers, Except.map, ok_bind]
    split
    · exact .ok _
    · exact .ok _
  | _ => simp [stepLines, Json.get?, Json.asMembers, Json.isObject, Except.map]

/-- What holds something is shown as transactions iff it is a list of objects. -/
theorem returns_steps {v : Json} (h : v.isSet = true) :
    Returns (steps v) ↔ areSteps v = true := by
  have hsteps {elements : List Json} (helements : v.elements = .ok elements) :
      Returns (steps v) ↔ ∀ x ∈ elements, x.isObject = true := by
    rw [steps, helements, ok_bind, Returns.bind_iff_of_returns fun _ => .pure _, Returns.mapM_iff]
    simp only [returns_stepLines]
    have hfst : (elements.zip (List.range elements.length)).map Prod.fst = elements :=
      List.map_fst_zip (by simp)
    conv_rhs => rw [← hfst, List.forall_mem_map]
  -- what runs through a text or an object are texts, and there is at least one
  cases v with
  | arr xs => simpa [areSteps] using hsteps rfl
  | str s =>
    have hs : s.toList ≠ [] := by simpa [Json.isSet] using h
    obtain ⟨c, cs, hs⟩ := List.exists_cons_of_ne_nil hs
    rw [hsteps rfl]
    simp [areSteps, h, hs, Json.isObject]
  | obj ms =>
    rw [hsteps rfl]
    cases ms with
    | nil => cases h
    | cons m ms => simp [areSteps, h, Json.isObject]
  | _ => simp [steps, Json.elements, areSteps, h]

theorem isState_of_not_isSet {v : Json} (h : ¬ v.isSet = true) : isState v = true :=
  Json.isRecord_of_not_isSet rfl h

theorem areSteps_of_not_isSet {v : Json} (h : ¬ v.isSet = true) : areSteps v = true := by
  cases v with
  | arr xs =>
    obtain rfl : xs = [] := by simpa [Json.isSet] using h
    rfl
  | _ => simp [areSteps, h]

/-- **A value can be shown as a test case iff it is an object of the right shape.** -/
theorem returns_text {v : Json} : Returns (text v) ↔ ∃ ms, v = .obj ms ∧ isShown ms = true := by
  cases v with
  | obj ms =>
    have hsequence (f : String → String) (last : String) : Returns (if
        (memberOf ms "steps").isSet = true then do
          let t ← steps (memberOf ms "steps")
          pure (f t)
        else pure last : Except Defect String) ↔ areSteps (memberOf ms "steps") = true := by
      rw [Returns.ite_bind_iff returns_steps areSteps_of_not_isSet
        (fun _ => iff_true_intro (.pure _)) (iff_true_intro (.pure _)), and_true]
    simp only [text, Json.get_obj, ok_bind, pure_bind]
    rw [Returns.ite_bind_iff returns_initialState isState_of_not_isSet (fun _ => hsequence _ _)
      (hsequence _ _)]
    simp [isShown]
  | _ => simp [text, Json.get, Json.get?, Json.asMembers, Except.map]

/-- A transaction that is no object. -/
example : isShown [("initialState", .obj []), ("steps", .arr [.str "0x00"])] = false := rfl

end TestCase

/-- Whether the test cases of the finding can be shown: they are no number and no truth value, and
the objects among them have the right shape. -/
def Finding.showsTestCases (f : Finding) : Bool :=
  let listed := memberOf f.extra "testCases"
  !(listed.isSet && listed.isScalar) && listed.objects.all TestCase.isShown

/-- The numbers of the place have at most `maxDigits` digits. -/
def Diagnostic.HasNumerals (d : Diagnostic) : Prop :=
  ∀ n ∈ [d.line, d.column, d.endLine, d.endColumn], n.natAbs < 10 ^ Text.maxDigits

namespace Report

theorem returns_mapM_text {elements : List Json} :
    Returns ((elements.filter Json.isObject).mapM TestCase.text) ↔
      (elements.filterMap Json.object?).all TestCase.isShown = true := by
  have hobject {x : Json} {ms : Json.Members} : Json.object? x = some ms ↔ x = .obj ms := by
    cases x <;> simp [Json.object?]
  rw [Returns.mapM_iff, List.all_eq_true]
  simp only [List.mem_filter, List.mem_filterMap, hobject, TestCase.returns_text]
  constructor
  · rintro h ms ⟨x, hx, rfl⟩
    obtain ⟨ms', hms, hshown⟩ := h _ ⟨hx, rfl⟩
    cases hms
    exact hshown
  · rintro h x ⟨hx, hobj⟩
    cases x with
    | obj ms => exact ⟨ms, rfl, h ms ⟨_, hx, rfl⟩⟩
    | _ => cases hobj

/-- **The test cases of a diagnostic are shown iff those of its finding can be.** -/
theorem returns_testCases {d : Diagnostic} :
    Returns (testCases d) ↔ ∀ f ∈ d.finding, f.showsTestCases = true := by
  cases hfinding : d.finding with
  | none =>
    have hnone : testCases d = .ok [] := by rw [testCases, hfinding]; rfl
    simp [hnone]
  | some f =>
    have hlisted : testCases d = (do
        let elements ← ((memberOf f.extra "testCases").orElse (.arr [])).elements
        (elements.filter Json.isObject).mapM TestCase.text) := by
      rw [testCases, hfinding]
      rfl
    rw [hlisted, Returns.bind_iff_and fun elements h => by
      rw [returns_mapM_text, Json.filterMap_object?_elements h, Json.objects_orElse]]
    rw [(Json.refuses_elements_orElse _).returns_iff, ← Bool.and_eq_true, Bool.not_eq_true,
      ← Bool.not_eq_true', ← Bool.and_eq_true]
    exact ⟨fun h _ hf => Option.some.inj hf ▸ h, fun h => h f rfl⟩

/-! ## Blocks -/

theorem returns_checkPlace {d : Diagnostic} : Returns (checkPlace d) ↔ d.HasNumerals := by
  have hall : d.HasNumerals ↔
      [d.line, d.column, d.endLine, d.endColumn].all Text.fitsNumeral = true := by
    rw [List.all_eq_true]
    exact forall₂_congr fun n _ => Text.fitsNumeral_iff.symm
  rw [checkPlace, hall]
  split
  · next h => exact iff_of_true (.ok _) h
  · next h => exact iff_of_false (Returns.not_error _) h

theorem returns_narrativeBlock {filePath : String} {d : Diagnostic} :
    Returns (narrativeBlock filePath d) ↔
      d.HasNumerals ∧ ∀ f ∈ d.finding, f.showsTestCases = true := by
  rw [narrativeBlock, Returns.bind_iff_and fun _ _ => Returns.bind_iff_of_returns fun _ => .pure _,
    returns_checkPlace, returns_testCases]

/-- **The full text report is written iff each diagnostic can be shown**: its place has numerals,
and the test cases of its finding are of the right shape. -/
theorem returns_narrative {rs : List Report} :
    Returns (narrative rs) ↔ ∀ r ∈ rs, ∀ d ∈ r.messages,
      d.HasNumerals ∧ ∀ f ∈ d.finding, f.showsTestCases = true := by
  rw [narrative, Returns.bind_iff_of_returns fun _ => .pure _, Returns.mapM_iff]
  simp only [Returns.mapM_iff, returns_narrativeBlock]

end Report

end ContractAudit
