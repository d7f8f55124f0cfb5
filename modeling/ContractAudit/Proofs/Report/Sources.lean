/-
  Reports against the same sources in other forms.

  The sources come as texts or contents (`IsSource`), as the input of the compiler, and as they are
  sent to the service.

  * A batch reads the sources only through their paths and texts.  Where these agree
    (`SourcesAgree`), so do the reports, step by step: `fileAt`, `target`, `ofFindings`.
  * `SourcesAgree.of_map`: entries changed one by one, to the same text, agree;
  * `SourcesAgree.of_requestData`: so do the sources of a request;
  * `ofFindingsIn_forms`: the reports and the log of a batch are the same for all three forms.
-/
import ContractAudit.Proofs.Report.Lookup
import ContractAudit.Proofs.Submission
import ContractAudit.Solidity.Compiler

namespace ContractAudit

/-! ## Sources that agree -/

/-- Both hold the same paths, with the same texts. -/
structure SourcesAgree (sources others : Json.Members) : Prop where
  paths : ∀ path, path ∈ Keyed.keys sources ↔ path ∈ Keyed.keys others
  texts : ∀ path, sourceText? sources path = sourceText? others path

namespace SourcesAgree

section
variable {sources others : Json.Members} (h : SourcesAgree sources others)
include h

theorem knownPath (path : String) :
    knownPath (Keyed.keys sources) path = knownPath (Keyed.keys others) path := by
  simp only [ContractAudit.knownPath, h.paths]

theorem fileAt (index : Int) (files : List String) :
    fileAt index files (Keyed.keys sources) = fileAt index files (Keyed.keys others) := by
  simp only [ContractAudit.fileAt, h.knownPath]

theorem target (sourceList : List String) (f : Finding) :
    Grouping.target sources sourceList f = Grouping.target others sourceList f := by
  simp only [Grouping.target, h.fileAt, h.texts]

theorem ofFindings (findings : List Finding) (sourceList : List String) :
    Report.ofFindings findings sources sourceList =
      Report.ofFindings findings others sourceList := by
  have hadd : Grouping.add sources sourceList = Grouping.add others sourceList := by
    funext g f
    simp only [Grouping.add, h.target]
  rw [Report.ofFindings, Report.ofFindings, hadd]

/-- **The reports of a batch are the same.** -/
theorem ofFindingsIn (findings : List Finding) (sourceList : List String) :
    Report.ofFindingsIn findings (.obj sources) (.texts sourceList) =
      Report.ofFindingsIn findings (.obj others) (.texts sourceList) := by
  rw [ofFindingsIn_texts, ofFindingsIn_texts, h.ofFindings]

end

/-- Entries that are changed one by one, to the same text. -/
theorem of_map {sources : Json.Members} {f : Json → Json}
    (h : ∀ m ∈ sources, entryText? (f m.2) = entryText? m.2) :
    SourcesAgree (sources.map fun e => (e.1, f e.2)) sources where
  paths path := by simp [Keyed.keys]
  texts path := by
    rw [sourceText?, sourceText?, Keyed.lookup?_mapValues]
    cases hv : Keyed.lookup? path sources with
    | none => rfl
    | some v => exact h _ (Keyed.mem_of_lookup? hv)

end SourcesAgree

/-! ## Forms of the sources -/

/-- A text, or an object that holds one as its content. -/
inductive IsSource : Json → Prop
  | text (s : String) : IsSource (.str s)
  | content {ms : Json.Members} {s : String} (h : Keyed.lookup? "content" ms = some (.str s)) :
      IsSource (.obj ms)

namespace IsSource

theorem contentOf?_eq {v : Json} (h : IsSource v) : contentOf? v = entryText? v := by
  cases h with
  | text s => rfl
  | content h => simp [contentOf?, entryText?, h]

theorem entryText?_sourceEntry {v : Json} (h : IsSource v) :
    entryText? (Solidity.sourceEntry v) = entryText? v := by
  cases h with
  | text s => rfl
  | content h => rfl

end IsSource

section
variable {output : Json} {compiled sources : Json.Members}

/-- **A request tells the texts of the sources**, if the output of the compiler has their paths. -/
theorem SourcesAgree.of_requestData {contract : Solidity.Contract}
    {mode mainSource : Json} {data : RequestData} (h : output.get "sources" = .ok (.obj compiled))
    (hpaths : ∀ path, path ∈ Keyed.keys compiled ↔ path ∈ Keyed.keys sources)
    (hsources : ∀ m ∈ sources, IsSource m.2)
    (hdata : requestData contract output (.obj sources) mode .null mainSource = .ok data) :
    SourcesAgree data.sources sources := by
  rw [requestData_eq contract mode mainSource h, bind_eq_ok] at hdata
  obtain ⟨list, hlist, hdata⟩ := hdata
  obtain ⟨entries, hentries, hd⟩ := bind_eq_ok.1 hdata
  obtain rfl := Except.ok.inj hd
  have hkeys : Keyed.keys entries = list.eraseDups := by
    rw [Keyed.keys, ← List.forall₂_eq_eq_eq, List.forall₂_map_left_iff]
    exact (mapM_eq_ok_iff.1 hentries).flip.imp fun e path he => (requested_eq_ok he).1
  have hall : ∀ path, path ∈ Keyed.keys entries ↔ path ∈ Keyed.keys sources := fun path => by
    rw [hkeys, List.mem_eraseDups, mem_sourceList h hlist, hpaths]
  refine ⟨hall, fun path => ?_⟩
  rw [sourceText?, sourceText?]
  cases hv : Keyed.lookup? path entries with
  | none =>
    rw [Keyed.lookup?_eq_none_iff, hall, ← Keyed.lookup?_eq_none_iff] at hv
    rw [hv]
  | some v =>
    obtain ⟨path', -, he⟩ := (mem_iff_of_mapM hentries _).1 (Keyed.mem_of_lookup? hv)
    obtain ⟨rfl, htext⟩ := requested_eq_ok he
    rw [Option.bind_some, htext]
    cases hs : Keyed.lookup? path sources with
    | none => rfl
    | some source => exact (hsources _ (Keyed.mem_of_lookup? hs)).contentOf?_eq

/-- **The three forms of the sources are interchangeable**: a batch has the same reports and the
same log with the sources, with the input of the compiler and with the data of a request. There is
such data if the compiler numbers its sources. -/
theorem ofFindingsIn_forms (hsources : ∀ m ∈ sources, IsSource m.2)
    (houtput : output.get "sources" = .ok (.obj compiled))
    (hpaths : ∀ path, path ∈ Keyed.keys compiled ↔ path ∈ Keyed.keys sources)
    (contract : Solidity.Contract) (mode mainSource : Json) (findings : List Finding)
    (sourceList : List String) :
    ∃ reports log,
      Report.ofFindingsIn findings (.obj sources) (.texts sourceList) = (.ok reports, log) ∧
      (∃ given, (Solidity.compilerInput sources).get "sources" = .ok given ∧
        Report.ofFindingsIn findings given (.texts sourceList) = (.ok reports, log)) ∧
      (∀ data, requestData contract output (.obj sources) mode .null mainSource = .ok data →
        ∃ given, data.toJson.get "sources" = .ok given ∧
          Report.ofFindingsIn findings given (.texts sourceList) = (.ok reports, log)) ∧
      (AreNumbered compiled →
        ∃ data, requestData contract output (.obj sources) mode .null mainSource = .ok data) := by
  refine ⟨_, _, ofFindingsIn_texts _ _ _,
    ⟨.obj (sources.map fun e => (e.1, Solidity.sourceEntry e.2)), rfl, ?_⟩,
    fun data hdata => ⟨.obj data.sources, rfl, ?_⟩,
      exists_requestData contract mode mainSource houtput⟩
  · have hinput := SourcesAgree.of_map fun m hm => (hsources m hm).entryText?_sourceEntry
    rw [hinput.ofFindingsIn, ofFindingsIn_texts]
  · have hrequest := SourcesAgree.of_requestData houtput hpaths hsources hdata
    rw [hrequest.ofFindingsIn, ofFindingsIn_texts]

end

/-- A text and a content, compiled in another order. A finding in the second file, which the service
names with a slash in front, has one report with all three. -/
theorem two_sources_interchangeable :
    let sources : Json.Members :=
      [("a.sol", .str "contract A {}\n"), ("b.sol", .obj [("content", .str "\ncontract B {}\n")])]
    let compiled : Json.Members :=
      [("b.sol", .obj [("id", .int 1), ("ast", .obj [])]), ("a.sol", .obj [("id", .int 0)])]
    let output : Json := .obj [("sources", .obj compiled)]
    let contract : Solidity.Contract :=
      { name := "B", sourcePath := "b.sol", bytecode := "6000" }
    let found : Finding :=
      { locations := [{ sourceMap := "1:8:0", sourceType := "solidity-file",
                        sourceFormat := "text", sourceList := ["/b.sol"] }] }
    (∀ m ∈ sources, IsSource m.2) ∧ output.get "sources" = .ok (.obj compiled) ∧
    (∀ path, path ∈ Keyed.keys compiled ↔ path ∈ Keyed.keys sources) ∧ AreNumbered compiled ∧
    ∃ reports log data given,
      Report.ofFindingsIn [found] (.obj sources) (.texts []) = (.ok reports, log) ∧
      requestData contract output (.obj sources) (.str "quick") .null = .ok data ∧
      data.toJson.get "sources" = .ok given ∧
      Report.ofFindingsIn [found] given (.texts []) = (.ok reports, log) ∧
      reports.map (fun r => (r.filePath, r.messages.map (·.line))) = [("b.sol", [2])] := by
  intro sources compiled output contract found
  have hsources : ∀ m ∈ sources, IsSource m.2 :=
    List.forall_mem_cons.2 ⟨.text _, List.forall_mem_singleton.2 (.content rfl)⟩
  have hpaths : ∀ path, path ∈ Keyed.keys compiled ↔ path ∈ Keyed.keys sources := fun path => by
    simp [Keyed.keys, compiled, sources, or_comm]
  have hnumbers : AreNumbered compiled :=
    List.forall_mem_cons.2 ⟨⟨_, 1, rfl, rfl⟩, List.forall_mem_singleton.2 ⟨_, 0, rfl, rfl⟩⟩
  have houtput : output.get "sources" = .ok (.obj compiled) := rfl
  obtain ⟨reports, log, hreports, -, hdata, hexists⟩ :=
    ofFindingsIn_forms hsources houtput hpaths contract (.str "quick") (.str "b.sol") [found] []
  obtain ⟨data, hd⟩ := hexists hnumbers
  obtain ⟨given, hgiven, hsame⟩ := hdata data hd
  refine ⟨hsources, houtput, hpaths, hnumbers, reports, log, data, given, hreports, hd, hgiven,
    hsame, ?_⟩
  have hlines : (Report.ofFindingsIn [found] (.obj sources) (.texts [])).1.toOption.map
      (·.map fun r => (r.filePath, r.messages.map (·.line))) = some [("b.sol", [2])] := by
    decide +kernel
  rw [hreports] at hlines
  exact Option.some.inj hlines

end ContractAudit
