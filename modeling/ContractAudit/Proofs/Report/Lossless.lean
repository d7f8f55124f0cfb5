/-
  Reports in JSON lose nothing.

  * `isExact` tells the records that JSON can hold: no number with a fraction and no repeated key in
    what the service attached to a finding, and no integer of more than `Text.maxDigits` digits;
  * `HasLevels` tells those that are written at all: what is attached is not nested too deep.  Six
    more levels lead to it from the list of reports (`height_toJson_le`);
  * each record is read from the value that it is written as (`Report.ofJson_toJson`), and that
    value is an exact one (`Report.isExact_toJson`);
  * `Report.json_lossless`: the text of a list of reports is JSON from which the same list is read.
-/
import ContractAudit.Proofs.Answers
import ContractAudit.Proofs.Json.RoundTrip
import ContractAudit.Report.Format

namespace ContractAudit

/-! ## Fields -/

namespace Json

@[simp] theorem isExact_str (s : String) : (str s).isExact = true := rfl

@[simp] theorem isExact_ofText? (s : Option String) : (ofText? s).isExact = true := by
  cases s <;> rfl

@[simp] theorem isExact_texts (xs : List String) : (texts xs).isExact = true := by
  rw [texts, isExact, areExact_iff]
  intro x hx
  obtain ⟨s, -, rfl⟩ := List.mem_map.1 hx
  rfl

theorem isExact_arr_map {α : Type} {f : α → Json} {xs : List α}
    (h : ∀ x ∈ xs, (f x).isExact = true) : (arr (xs.map f)).isExact = true := by
  rw [isExact, areExact_iff]
  intro v hv
  obtain ⟨x, hx, rfl⟩ := List.mem_map.1 hv
  exact h x hx

/-! The height of an array or an object is one more than that of what it holds. -/

section
variable {n : Nat}

theorem tallest_le {vs : List Json} (h : ∀ v ∈ vs, v.height ≤ n) : tallest vs ≤ n := by
  induction vs with
  | nil => exact Nat.zero_le n
  | cons v vs ih =>
    obtain ⟨hv, hvs⟩ := List.forall_mem_cons.1 h
    exact Nat.max_le.2 ⟨hv, ih hvs⟩

theorem tallestMember_le {ms : Members} (h : ∀ m ∈ ms, m.2.height ≤ n) :
    tallestMember ms ≤ n := by
  induction ms with
  | nil => exact Nat.zero_le n
  | cons m ms ih =>
    obtain ⟨hm, hms⟩ := List.forall_mem_cons.1 h
    exact Nat.max_le.2 ⟨hm, ih hms⟩

theorem height_arr_map_le {α : Type} {f : α → Json} {xs : List α}
    (h : ∀ x ∈ xs, (f x).height ≤ n) : (arr (xs.map f)).height ≤ n + 1 := by
  rw [height, Nat.add_comm]
  exact Nat.succ_le_succ (tallest_le (List.forall_mem_map.2 h))

theorem height_obj_le {ms : Members} (h : ∀ m ∈ ms, m.2.height ≤ n) :
    (obj ms).height ≤ n + 1 := by
  rw [height, Nat.add_comm]
  exact Nat.succ_le_succ (tallestMember_le h)

end

@[simp] theorem height_str (s : String) : (str s).height = 1 := rfl

@[simp] theorem height_int (i : Int) : (int i).height = 1 := rfl

@[simp] theorem height_ofText? (s : Option String) : (ofText? s).height = 1 := by
  cases s <;> rfl

theorem height_texts_le (xs : List String) : (texts xs).height ≤ 2 :=
  height_arr_map_le fun _ _ => Nat.le_refl 1

namespace Field

@[simp] theorem nullable_string_ofText? (s : Option String) :
    nullable string (ofText? s) = .ok s := by
  cases s <;> rfl

@[simp] theorem string_str (s : String) : string (str s) = .ok s := rfl

@[simp] theorem object_obj (ms : Members) : object (obj ms) = .ok ms := rfl

@[simp] theorem integer_int (n : Int) : integer (int n) = .ok n := rfl

@[simp] theorem natural_int (n : Nat) : natural (int n) = .ok n := by
  simp [natural, integer]

theorem list_arr_map {α : Type} {f : Field α} {g : α → Json} {xs : List α}
    (h : ∀ x ∈ xs, f (g x) = .ok x) : list f (arr (xs.map g)) = .ok xs := by
  have hread := mapM_eq_ok_map (f := f ∘ g) (g := id) h
  rw [List.map_id] at hread
  rw [list, List.mapM_map]
  exact hread

@[simp] theorem list_string_texts (xs : List String) : list string (texts xs) = .ok xs :=
  list_arr_map fun _ _ => rfl

end Field

end Json

/-! ## Findings -/

namespace Description

@[simp] theorem ofJson_toJson (d : Description) : ofJson d.toJson = .ok d := by
  simp [ofJson, toJson, Json.optional, Keyed.lookup?]

@[simp] theorem isExact_toJson (d : Description) : d.toJson.isExact = true := rfl

@[simp] theorem height_toJson (d : Description) : d.toJson.height = 2 := rfl

end Description

namespace Candidate

theorem ofJson_toJson (c : Candidate) : ofJson c.toJson = .ok c := by
  simp [ofJson, toJson, Json.optional, Keyed.lookup?]

theorem isExact_toJson (c : Candidate) : c.toJson.isExact = true := by
  rw [toJson, Json.isExact]
  simp [Json.areExactMembers, Keyed.keys]

theorem height_toJson_le (c : Candidate) : c.toJson.height ≤ 3 := by
  refine Json.height_obj_le ?_
  simp [Json.height_texts_le]

end Candidate

namespace Finding

/-- Whether JSON can hold the finding. -/
def isExact (f : Finding) : Bool :=
  (Json.obj f.extra).isExact

theorem ofJson_toJson (f : Finding) : ofJson f.toJson = .ok f := by
  have hlocations : Json.Field.list Candidate.ofJson (.arr (f.locations.map Candidate.toJson)) =
      .ok f.locations := Json.Field.list_arr_map fun c _ => c.ofJson_toJson
  simp [ofJson, toJson, Json.optional, Keyed.lookup?, hlocations]

theorem isExact_toJson {f : Finding} (h : f.isExact = true) : f.toJson.isExact = true := by
  have hlocations : (Json.arr (f.locations.map Candidate.toJson)).isExact = true :=
    Json.isExact_arr_map fun c _ => c.isExact_toJson
  rw [isExact] at h
  rw [toJson, Json.isExact]
  simp [Json.areExactMembers, Keyed.keys, hlocations, h]

theorem height_toJson_le {f : Finding} (h : Format.hasLevels f = true) :
    f.toJson.height ≤ Format.writtenLevels + 2 := by
  have hlocations : (Json.arr (f.locations.map Candidate.toJson)).height ≤
      Format.writtenLevels + 1 :=
    Nat.le_trans (Json.height_arr_map_le fun c _ => c.height_toJson_le) (by decide)
  have hextra : (Json.obj f.extra).height ≤ Format.writtenLevels + 1 :=
    Json.height_obj_le fun m hm => by simpa using List.all_eq_true.1 h m hm
  have hone : 1 ≤ Format.writtenLevels := by decide
  refine Json.height_obj_le ?_
  simp [hlocations, hextra, hone]

end Finding

/-! ## Diagnostics -/

namespace Diagnostic

/-- Whether JSON can hold the diagnostic. -/
def isExact (d : Diagnostic) : Bool :=
  [d.line, d.column, d.endLine, d.endColumn].all (fun n => (Json.int n).isExact) &&
    d.finding.all Finding.isExact

theorem severityField_name (s : Severity) : severityField (.str s.name) = .ok s := by
  cases s <;> rfl

theorem ofJson_toJson (d : Diagnostic) : ofJson d.toJson = .ok d := by
  have hfinding : Json.Field.nullable Finding.ofJson
      ((d.finding.map Finding.toJson).getD .null) = .ok d.finding := by
    cases d.finding with
    | none => rfl
    | some f => exact congrArg (Except.map some) f.ofJson_toJson
  simp [ofJson, toJson, keyFields, Json.optional, Json.required, Keyed.lookup?,
    severityField_name, hfinding]

theorem isExact_toJson {d : Diagnostic} (h : d.isExact = true) : d.toJson.isExact = true := by
  simp only [isExact, List.all_cons, List.all_nil, Bool.and_eq_true] at h
  obtain ⟨⟨hline, hcolumn, hendLine, hendColumn, -⟩, hfinding⟩ := h
  have hraw : ((d.finding.map Finding.toJson).getD .null).isExact = true := by
    cases hf : d.finding with
    | none => rfl
    | some f => exact Finding.isExact_toJson (by simpa [hf] using hfinding)
  rw [toJson, Json.isExact]
  simp [keyFields, Json.areExactMembers, Keyed.keys, hline, hcolumn, hendLine, hendColumn, hraw]

/-- Whether the diagnostic is written: all values attached to its finding are. -/
def HasLevels (d : Diagnostic) : Prop :=
  ∀ f ∈ d.finding, Format.hasLevels f = true

theorem returns_checkLevels {d : Diagnostic} : Returns (Format.checkLevels d) ↔ d.HasLevels := by
  rw [Format.checkLevels, HasLevels]
  cases d.finding with
  | none => simp
  | some f => cases hf : Format.hasLevels f <;> simp [hf]

theorem height_toJson_le {d : Diagnostic} (h : d.HasLevels) :
    d.toJson.height ≤ Format.writtenLevels + 3 := by
  have hraw : ((d.finding.map Finding.toJson).getD .null).height ≤ Format.writtenLevels + 2 := by
    cases hf : d.finding with
    | none => decide
    | some f => exact Finding.height_toJson_le (h f (Option.mem_def.2 hf))
  refine Json.height_obj_le ?_
  simp [keyFields, hraw]

end Diagnostic

/-! ## Reports -/

namespace Report

/-- Whether JSON can hold the report. -/
def isExact (r : Report) : Bool :=
  (Json.int r.errorCount).isExact && (Json.int r.warningCount).isExact &&
    r.messages.all Diagnostic.isExact

theorem ofJson_toJson (r : Report) : ofJson r.toJson = .ok r := by
  have hmessages : Json.Field.list Diagnostic.ofJson (.arr (r.messages.map Diagnostic.toJson)) =
      .ok r.messages := Json.Field.list_arr_map fun d _ => d.ofJson_toJson
  simp [ofJson, toJson, Json.optional, Json.required, Keyed.lookup?, hmessages]

theorem isExact_toJson {r : Report} (h : r.isExact = true) : r.toJson.isExact = true := by
  simp only [isExact, Bool.and_eq_true, List.all_eq_true] at h
  obtain ⟨⟨herrors, hwarnings⟩, hmessages⟩ := h
  have hall : (Json.arr (r.messages.map Diagnostic.toJson)).isExact = true :=
    Json.isExact_arr_map fun d hd => Diagnostic.isExact_toJson (hmessages d hd)
  rw [toJson, Json.isExact]
  simp [Json.areExactMembers, Keyed.keys, herrors, hwarnings, hall]

/-- Whether the report is written: all its diagnostics are. -/
def HasLevels (r : Report) : Prop :=
  ∀ d ∈ r.messages, d.HasLevels

theorem height_toJson_le {r : Report} (h : r.HasLevels) :
    r.toJson.height ≤ Format.writtenLevels + 5 := by
  have hmessages : (Json.arr (r.messages.map Diagnostic.toJson)).height ≤
      Format.writtenLevels + 4 :=
    Json.height_arr_map_le fun d hd => Diagnostic.height_toJson_le (h d hd)
  refine Json.height_obj_le ?_
  simp [hmessages]

/-- Reports are written in JSON iff nothing that is attached to them is nested too deep. -/
theorem returns_json {cwd : String} {rs : List Report} :
    Returns (Format.json.render cwd rs) ↔ ∀ r ∈ rs, r.HasLevels := by
  rw [Format.render, Returns.bind_iff_of_returns fun _ => .pure _, Returns.forM_iff]
  simp only [Returns.forM_iff, Diagnostic.returns_checkLevels, HasLevels]

theorem render_json {cwd : String} {rs : List Report} (h : ∀ r ∈ rs, r.HasLevels) :
    Format.json.render cwd rs = .ok (Json.write Json.reportLayout (.arr (rs.map toJson))) := by
  obtain ⟨text, htext⟩ := returns_json.2 h
  obtain ⟨u, -, hpure⟩ := bind_eq_ok.1 htext
  rw [htext, ← hpure]
  rfl

/-- **The report in JSON is lossless**, and it is written iff no value that is attached to a finding
has more than `Format.writtenLevels` levels. What is written is JSON with six levels more at most.
The program reads it, and so does every reader that follows all its levels, with or without words
for numbers; and the same reports are made of what is read. -/
theorem json_lossless (cwd : String) {rs : List Report} (h : ∀ r ∈ rs, r.isExact = true) :
    (Returns (Format.json.render cwd rs) ↔ ∀ r ∈ rs, r.HasLevels) ∧
      ((∀ r ∈ rs, r.HasLevels) → ∃ text v, Format.json.render cwd rs = .ok text ∧
        v.height ≤ Format.writtenLevels + 6 ∧ Json.parse? text = some v ∧
        (∀ hasWords levels, v.height ≤ levels → Json.read hasWords levels text = .ok v) ∧
        Json.Field.list ofJson v = .ok rs) := by
  refine ⟨returns_json, fun hlevels => ⟨_, .arr (rs.map toJson), render_json hlevels, ?_⟩⟩
  have hexact : (Json.arr (rs.map toJson)).isExact = true :=
    Json.isExact_arr_map fun r hr => isExact_toJson (h r hr)
  have hheight : (Json.arr (rs.map toJson)).height ≤ Format.writtenLevels + 6 :=
    Json.height_arr_map_le fun r hr => height_toJson_le (hlevels r hr)
  have hparse := Json.parse_write Json.reportLayout_separates hexact
    (Nat.le_trans hheight (by decide))
  exact ⟨hheight, congrArg Except.toOption hparse,
    fun hasWords _ => Json.read_write Json.reportLayout_separates hexact hasWords,
    Json.Field.list_arr_map fun r _ => r.ofJson_toJson⟩

/-- A report whose finding has quotes, control characters, nested and empty containers, no severity
and an empty identifier. -/
def nested : Report where
  filePath := "a\u2028\"b\\.sol"
  errorCount := 0
  warningCount := 1
  messages := [{
    filePath := "a\u2028\"b\\.sol"
    message := "\x00\x1f\n\t\x7f/😀"
    line := -1
    vendorSeverity := some ""
    finding := some {
      swcId := some ""
      description := { head := "it's", tail := "" }
      locations := [{ sourceMap := "0:1:0", sourceList := ["x", ""] }]
      extra := [("z", .arr [.arr [], .obj [], .null, .bool true]),
        ("a", .int (-12345678901234567890)),
        ("", .obj [("k", .str "]"), ("j", .arr [.int 0, .str "None"])])] } }]

/-- The report twice: it is written, and a strict reader reads it. -/
theorem json_lossless_nested :
    (∀ r ∈ [nested, nested], r.isExact = true) ∧ (∀ r ∈ [nested, nested], r.HasLevels) ∧
      ∃ text v, Format.json.render "/" [nested, nested] = .ok text ∧
        Json.parse? text = some v ∧ Json.read false 261 text = .ok v ∧
        Json.Field.list ofJson v = .ok [nested, nested] := by
  have h : ∀ r ∈ [nested, nested], r.isExact = true := by decide
  have hnested : nested.HasLevels := by
    refine List.forall_mem_singleton.2 fun f hf => ?_
    obtain rfl := Option.some.inj hf
    decide
  have hlevels : ∀ r ∈ [nested, nested], r.HasLevels := by simp [hnested]
  obtain ⟨text, v, htext, hheight, hparse, hread, hlist⟩ := (json_lossless "/" h).2 hlevels
  exact ⟨h, hlevels, text, v, htext, hparse, hread false 261 hheight, hlist⟩

end Report

namespace Json

/-- A value within so many arrays. -/
def inArrays : Nat → Json → Json
  | 0, v => v
  | n + 1, v => .arr [inArrays n v]

theorem height_inArrays (n : Nat) (v : Json) : (inArrays n v).height = n + v.height := by
  induction n with
  | zero => exact (Nat.zero_add _).symm
  | succ n ih =>
    rw [inArrays, height, tallest, tallest, ih]
    omega

theorem isExact_inArrays (n : Nat) {v : Json} (h : v.isExact = true) :
    (inArrays n v).isExact = true := by
  induction n with
  | zero => exact h
  | succ n ih => exact areExact_iff.2 (List.forall_mem_singleton.2 ih)

end Json

/-- **What lies within 255 arrays is not written**, though JSON can hold it. -/
theorem Report.deep_value_is_not_written :
    let r : Report :=
      { filePath := "C.sol", warningCount := 1
        messages := [{ filePath := "C.sol", message := "Bad"
                       finding := some { extra := [("deep", .inArrays 255 .null)] } }] }
    r.isExact = true ∧ ¬ Returns (Format.json.render "/" [r]) := by
  intro r
  have hexact : (Json.inArrays 255 .null).isExact = true := Json.isExact_inArrays 255 rfl
  have hheight := Json.height_inArrays 255 .null
  refine ⟨?_, fun h => ?_⟩
  · simp [r, isExact, Diagnostic.isExact, Finding.isExact, Json.isExact, Json.areExactMembers,
      Keyed.keys, hexact]
    decide
  · have hlevels := returns_json.1 h r (List.mem_singleton_self r)
    simp [r, HasLevels, Diagnostic.HasLevels, Format.hasLevels, hheight, Json.height,
      Format.writtenLevels] at hlevels

end ContractAudit
