/-
  The sources in the data of a request.

  * `mem_sourceList`: the source list is made of the paths in the output of the compiler;
  * `requestData_eq`: what the data of a request is made of, source by source (`requested`);
  * `requested_eq_ok`: what it tells about a source is the text of that source;
  * `exists_requestData`: there is such data if the output numbers its sources by integers.
-/
import Mathlib.Tactic.Choose
import ContractAudit.Proofs.Json.Order
import ContractAudit.Report.Grouping
import ContractAudit.Submission

namespace ContractAudit

/-- The number and the path of a source in the output of the compiler. -/
def numbered (e : String × Json) : Except Defect (Json × String) := do
  let number ← e.2.get? "id"
  pure (number.getD (.int 0), e.1)

/-- A path with what is told about the source. -/
def requested (compiled sources : Json.Members) (path : String) :
    Except Defect (String × Json) := do
  let entry ← requestSource (.obj compiled) (.obj sources) (.str path)
  pure (path, entry)

/-- The sources of the output are objects, and their numbers are integers; one without a number
counts as number zero. -/
def AreNumbered (compiled : Json.Members) : Prop :=
  ∀ m ∈ compiled, ∃ own n, m.2 = .obj own ∧ (Keyed.lookup? "id" own).getD (.int 0) = .int n

theorem numbered_eq_ok {e : String × Json} {p : Json × String} (h : numbered e = .ok p) :
    p.2 = e.1 := by
  obtain ⟨number, -, hp⟩ := bind_eq_ok.1 h
  obtain rfl := Except.ok.inj hp
  rfl

section
variable {output : Json} {compiled sources : Json.Members}

/-! ## Source lists -/

theorem compiledSources_eq (h : output.get "sources" = .ok (.obj compiled)) :
    compiledSources output = .ok (.obj compiled) := by
  rw [compiledSources, h]
  cases compiled <;> rfl

theorem sourceList_eq (h : output.get "sources" = .ok (.obj compiled)) :
    sourceList output = compiled.mapM numbered >>= Json.sortBy := by
  rw [sourceList, compiledSources_eq h]
  rfl

theorem mem_sourceList {list : List String} (h : output.get "sources" = .ok (.obj compiled))
    (hlist : sourceList output = .ok list) (path : String) :
    path ∈ list ↔ path ∈ Keyed.keys compiled := by
  rw [sourceList_eq h, bind_eq_ok] at hlist
  obtain ⟨pairs, hpairs, hsorted⟩ := hlist
  have hkeys : Keyed.keys compiled = pairs.map (·.2) := by
    rw [Keyed.keys, ← List.forall₂_eq_eq_eq, List.forall₂_map_left_iff, List.forall₂_map_right_iff]
    exact (mapM_eq_ok_iff.1 hpairs).imp fun e p hp => (numbered_eq_ok hp).symm
  rw [hkeys]
  exact (Json.perm_of_sortBy hsorted).mem_iff

/-- Sources with integers for numbers can be listed. -/
theorem exists_sourceList (h : output.get "sources" = .ok (.obj compiled))
    (hnumbers : AreNumbered compiled) : ∃ list, sourceList output = .ok list := by
  have hnumbered : ∀ e ∈ compiled, ∃ n, numbered e = .ok (.int n, e.1) := by
    rintro ⟨path, v⟩ he
    obtain ⟨own, n, rfl, hn⟩ := hnumbers _ he
    exact ⟨n, by rw [← hn]; rfl⟩
  choose! number hnumber using hnumbered
  have hpairs : (compiled.map fun e => (Json.int (number e), e.1)).map (·.1) =
      (compiled.map number).map .int := by
    simp only [List.map_map, Function.comp_def]
  rw [sourceList_eq h, mapM_eq_ok_map hnumber, ok_bind, Json.sortBy, hpairs,
    Json.checkOrdered_ints]
  exact ⟨_, rfl⟩

/-! ## What is told about a source -/

theorem entryText?_requestSource {path : String} {v : Json}
    (h : requestSource (.obj compiled) (.obj sources) (.str path) = .ok v) :
    entryText? v = (Keyed.lookup? path sources).bind contentOf? := by
  simp only [requestSource, Json.at?, Json.asMembers, Json.memberAt?, ok_bind] at h
  obtain ⟨tree, -, hv⟩ := bind_eq_ok.1 h
  obtain rfl := Except.ok.inj hv
  cases (Keyed.lookup? path sources).bind contentOf? with
  | none => cases tree <;> rfl
  | some s => cases tree <;> rfl

theorem requested_eq_ok {path : String} {e : String × Json}
    (h : requested compiled sources path = .ok e) :
    e.1 = path ∧ entryText? e.2 = (Keyed.lookup? path sources).bind contentOf? := by
  obtain ⟨v, hv, he⟩ := bind_eq_ok.1 h
  obtain rfl := Except.ok.inj he
  exact ⟨rfl, entryText?_requestSource hv⟩

variable (sources) in
/-- Of a source that is an object, or that the output does not have, something can be told. -/
theorem exists_requested (hnumbers : AreNumbered compiled) (path : String) :
    ∃ e, requested compiled sources path = .ok e := by
  have htree : ∃ tree, (((Keyed.lookup? path compiled).getD .null).orElse (.obj [])).get "ast" =
      .ok tree := by
    cases hv : Keyed.lookup? path compiled with
    | none => exact ⟨_, rfl⟩
    | some v =>
      obtain ⟨own, n, rfl, -⟩ := hnumbers _ (Keyed.mem_of_lookup? hv)
      cases own <;> exact ⟨_, rfl⟩
  obtain ⟨tree, htree⟩ := htree
  simp only [requested, requestSource, Json.at?, Json.asMembers, Json.memberAt?, ok_bind, htree]
  exact ⟨_, rfl⟩

/-! ## The data of a request -/

variable (contract : Solidity.Contract) (mode mainSource : Json)

/-- The data of a request, where the source list is that of the output. -/
theorem requestData_eq (h : output.get "sources" = .ok (.obj compiled)) :
    requestData contract output (.obj sources) mode .null mainSource = (do
      let list ← sourceList output
      let entries ← list.eraseDups.mapM (requested compiled sources)
      pure { contract, mainSource, sourceList := list.map .str, sources := entries, mode }) := by
  simp only [requestData, compiledSources_eq h]
  cases sourceList output with
  | error d => rfl
  | ok list =>
    simp only [ok_bind, pure_bind, Json.distinct_texts, List.mapM_map]
    rfl

theorem sourceList_of_requestData {data : RequestData}
    (h : output.get "sources" = .ok (.obj compiled))
    (hdata : requestData contract output (.obj sources) mode .null mainSource = .ok data) :
    ∃ list, sourceList output = .ok list ∧ data.sourceList = list.map .str := by
  rw [requestData_eq contract mode mainSource h, bind_eq_ok] at hdata
  obtain ⟨list, hlist, hdata⟩ := hdata
  obtain ⟨entries, -, hd⟩ := bind_eq_ok.1 hdata
  obtain rfl := Except.ok.inj hd
  exact ⟨list, hlist, rfl⟩

/-- **Where the output numbers its sources by integers, there is a request.** -/
theorem exists_requestData (h : output.get "sources" = .ok (.obj compiled))
    (hnumbers : AreNumbered compiled) :
    ∃ data, requestData contract output (.obj sources) mode .null mainSource = .ok data := by
  obtain ⟨list, hlist⟩ := exists_sourceList h hnumbers
  choose f hf using exists_requested sources hnumbers
  rw [requestData_eq contract mode mainSource h, hlist, ok_bind,
    mapM_eq_ok_map fun path _ => hf path]
  exact ⟨_, rfl⟩

end

end ContractAudit
