/-
  When a finding gets a position, and which.

  * The location that counts is the first one in a text; `Finding.IsRefused` says that its token is
    no entry, and `Finding.IsPlaceable` that the text is known, and the file given or listed;
  * `Diagnostic.Outcome` lists what the diagnostic of a finding may be: refused with its token,
    unresolved, or placed (`ofFinding_outcome`);
  * `Diagnostic.IsPlaced`: the position begins where a range begins and ends where it ends, and its
    columns count from the starts of its lines; `isPlaced_placed`: that of a placed one does;
  * `ofFinding_places`: so a finding is refused iff its token is, and else placed iff it is
    placeable.
-/
import ContractAudit.Diagnostic
import ContractAudit.Proofs.Answers
import ContractAudit.Proofs.Finding.File
import ContractAudit.Proofs.SourceMap.Order

namespace ContractAudit

/-! ## Findings -/

theorem Finding.authoritative?_eq (f : Finding) :
    f.authoritative? = f.locations.find? Candidate.isText := by
  rw [authoritative?, textLocations, List.head?_filter]

/-- Whether the token of the location that counts is refused. -/
def Finding.IsRefused (f : Finding) (e : LocationError) : Prop :=
  ∃ location, f.locations.find? Candidate.isText = some location ∧
    Entry.parse location.sourceMap = .error e

/-- A finding is refused in one way only. -/
theorem Finding.IsRefused.unique {f : Finding} {e e' : LocationError} (h : f.IsRefused e)
    (h' : f.IsRefused e') : e = e' := by
  obtain ⟨location, hlocation, herror⟩ := h
  obtain ⟨location', hlocation', herror'⟩ := h'
  obtain rfl := Option.some.inj (hlocation.symm.trans hlocation')
  exact Except.error.inj (herror.symm.trans herror')

/-- Whether there is a location that counts, in a text that is known and in a file that is given or
that the source list of the location names. -/
def Finding.IsPlaceable (f : Finding) (text path : Option String) : Prop :=
  ∃ location, f.locations.find? Candidate.isText = some location ∧ text ≠ none ∧
    (path ≠ none ∨ ∃ entry, Entry.parse location.sourceMap = .ok entry ∧
      0 ≤ entry.file ∧ entry.file < location.sourceList.length)

section
variable {f : Finding} {location : Candidate}
  (hlocation : f.locations.find? Candidate.isText = some location)
include hlocation

theorem Finding.isRefused_iff {e : LocationError} :
    f.IsRefused e ↔ Entry.parse location.sourceMap = .error e := by
  rw [IsRefused, hlocation]
  simp

theorem Finding.isPlaceable_iff {entry : Entry}
    (hentry : Entry.parse location.sourceMap = .ok entry) (text path : Option String) :
    f.IsPlaceable text path ↔ text ≠ none ∧
      path.orElse (fun _ => (fileAt entry.file location.sourceList []).toOption) ≠ none := by
  rw [IsPlaceable, hlocation]
  simp only [Option.some.injEq, exists_eq_left', hentry, Except.ok.injEq,
    ← toOption_fileAt_ne_none entry.file location.sourceList []]
  cases path <;> simp

end

/-! ## Placed diagnostics -/

/-- Whether a place is that of an offset: its column counts from the start of its line. -/
def LineTable.Locates (t : LineTable) (offset : Nat) (line : Int) (column : Nat) : Prop :=
  ∃ start, t.lineStart? line.toNat = some start ∧ start + column = offset

namespace Diagnostic

/-- Whether the position of a diagnostic is that of a range. Columns are natural numbers by type. -/
structure IsPlaced (d : Diagnostic) (t : LineTable) (s : Span) : Prop where
  line_pos : 1 ≤ d.line
  ordered : toLex (d.line, d.column) ≤ toLex (d.endLine, d.endColumn)
  start : t.Locates s.offset d.line d.column
  stop : t.Locates s.stop d.endLine d.endColumn

theorem isPlaced_placed (d : Diagnostic) (s : Span) (source : String) (t : LineTable) :
    (d.placed s source t).IsPlaced t s where
  line_pos := by
    simp only [placed, LineTable.range, LineTable.position]
    omega
  ordered := by
    have hrank : (t.position s.offset).rank ≤ (t.position s.stop).rank :=
      t.rank_position_le (Nat.le_add_right _ _)
    rw [Position.rank, Position.rank, Prod.Lex.toLex_le_toLex] at hrank
    rw [Prod.Lex.toLex_le_toLex]
    exact hrank.imp Int.ofNat_lt.2 (And.imp_left (congrArg Nat.cast))
  start := t.lineStart?_position s.offset
  stop := t.lineStart?_position s.stop

theorem isResolved_placed (d : Diagnostic) (s : Span) (source : String) (t : LineTable) :
    (d.placed s source t).isResolved = true :=
  decide_eq_true (d.isPlaced_placed s source t).line_pos

/-! ## Outcomes -/

/-- What the diagnostic of a finding may be. -/
inductive Outcome (f : Finding) (text path : Option String) (table : Option LineTable) :
    Except LocationError Diagnostic → Prop
  | refused {e} (hrefused : f.IsRefused e) : Outcome f text path table (.error e)
  | unresolved {file} (hread : ∀ e, ¬ f.IsRefused e) (hplace : ¬ f.IsPlaceable text path) :
      Outcome f text path table (.ok (.unresolved f file))
  | placed {location entry file source} (hread : ∀ e, ¬ f.IsRefused e)
      (hlocation : f.locations.find? Candidate.isText = some location)
      (hentry : Entry.parse location.sourceMap = .ok entry)
      (hplace : f.IsPlaceable text path) (htext : text = some source) :
      Outcome f text path table
        (.ok ((Diagnostic.unresolved f file).placed entry.span source
          (table.getD (.ofText source))))

/-- **A finding is refused with its token, or else placed or left unresolved.** -/
theorem ofFinding_outcome (f : Finding) (text path : Option String) (table : Option LineTable) :
    Outcome f text path table (ofFinding f text path table) := by
  rw [ofFinding, f.authoritative?_eq]
  cases hlocation : f.locations.find? Candidate.isText with
  | none =>
    have hread : ∀ e, ¬ f.IsRefused e := by simp [Finding.IsRefused, hlocation]
    have hplace : ¬ f.IsPlaceable text path := by simp [Finding.IsPlaceable, hlocation]
    exact .unresolved hread hplace
  | some location =>
    dsimp only
    cases hentry : Entry.parse location.sourceMap with
    | error e => exact .refused ((Finding.isRefused_iff hlocation).2 hentry)
    | ok entry =>
      have hread : ∀ e, ¬ f.IsRefused e := by
        intro e h
        rw [Finding.isRefused_iff hlocation, hentry] at h
        cases h
      have hplace := Finding.isPlaceable_iff hlocation hentry text path
      rw [ok_bind]
      cases hfile : path.orElse fun _ => (fileAt entry.file location.sourceList []).toOption with
      | none =>
        rw [hfile] at hplace
        exact .unresolved hread fun h => (hplace.1 h).2 rfl
      | some file =>
        rw [hfile] at hplace
        cases text with
        | none => exact .unresolved hread fun h => (hplace.1 h).1 rfl
        | some source =>
          have hplaceable := hplace.2 ⟨Option.some_ne_none _, Option.some_ne_none _⟩
          exact .placed hread hlocation hentry hplaceable rfl

/-- **When a finding gets a position.** Its diagnostic is refused iff its location that counts has
a token that is no entry, with or without a text. Else it is resolved iff it has a snippet, iff the
finding is placeable; its position is then that of the range of the token, in the given table or
that of the text, and is otherwise the unresolved one. -/
theorem ofFinding_places (f : Finding) (text path : Option String) (table : Option LineTable) :
    (∀ e, ofFinding f text path table = .error e ↔ f.IsRefused e) ∧
    ∀ d, ofFinding f text path table = .ok d →
      (d.isResolved = true ↔ d.snippet ≠ none) ∧
      (d.snippet ≠ none ↔ f.IsPlaceable text path) ∧
      (d.isResolved = true → ∃ location entry source,
        f.locations.find? Candidate.isText = some location ∧
        Entry.parse location.sourceMap = .ok entry ∧ text = some source ∧
        d.IsPlaced (table.getD (.ofText source)) entry.span) ∧
      (d.isResolved = false → d.line = -1 ∧ d.column = 0 ∧ d.endLine = -1 ∧ d.endColumn = 0) := by
  have houtcome := ofFinding_outcome f text path table
  generalize ofFinding f text path table = result at houtcome
  cases houtcome with
  | @refused e hrefused =>
    refine ⟨fun e' => ⟨?_, fun h => congrArg _ (hrefused.unique h)⟩, fun d h => nomatch h⟩
    rintro ⟨⟩
    exact hrefused
  | @unresolved file hread hplace =>
    refine ⟨fun e => iff_of_false (fun h => nomatch h) (hread e), ?_⟩
    rintro d ⟨⟩
    have hresolved : ¬ (unresolved f file).isResolved = true := Bool.false_ne_true
    exact ⟨iff_of_false hresolved (· rfl), iff_of_false (· rfl) hplace,
      fun h => absurd h hresolved, fun _ => ⟨rfl, rfl, rfl, rfl⟩⟩
  | @placed location entry file source hread hlocation hentry hplace htext =>
    refine ⟨fun e => iff_of_false (fun h => nomatch h) (hread e), ?_⟩
    rintro d ⟨⟩
    have hresolved := isResolved_placed (unresolved f file) entry.span source
      (table.getD (.ofText source))
    have hsnippet : ((unresolved f file).placed entry.span source
      (table.getD (.ofText source))).snippet ≠ none := Option.some_ne_none _
    exact ⟨iff_of_true hresolved hsnippet, iff_of_true hsnippet hplace,
      fun _ => ⟨location, entry, source, hlocation, hentry, htext, isPlaced_placed ..⟩,
      fun h => absurd hresolved (ne_true_of_eq_false h)⟩

/-- A location in no text comes first; the file is looked up. Without the text there is no
position. -/
theorem placed_after_other_location :
    let f : Finding :=
      { locations := [{ sourceMap := "0:1", sourceList := ["C.sol"] },
          { sourceMap := "3:2:1", sourceType := "solidity-file", sourceFormat := "text",
            sourceList := ["Lib.sol", "C.sol"] }] }
    (∃ d, ofFinding f (some "é\n€z") none none = .ok d ∧ d.isResolved = true ∧
      f.IsPlaceable (some "é\n€z") none ∧ d.IsPlaced (.ofText "é\n€z") ⟨3, 2⟩) ∧
    ∃ d, ofFinding f none none none = .ok d ∧ d.isResolved = false ∧ d.line = -1 := by
  intro f
  have hplaced : (ofFinding f (some "é\n€z") none none).toOption.map isResolved = some true := by
    decide +kernel
  have hunresolved : (ofFinding f none none none).toOption.map isResolved = some false := by
    decide +kernel
  obtain ⟨d, hd, hresolved⟩ := Option.map_eq_some_iff.1 hplaced
  obtain ⟨d', hd', hresolved'⟩ := Option.map_eq_some_iff.1 hunresolved
  rw [toOption_eq_some_iff] at hd hd'
  have h := (ofFinding_places f (some "é\n€z") none none).2 d hd
  have h' := (ofFinding_places f none none none).2 d' hd'
  obtain ⟨location, entry, source, hlocation, hentry, hsource, hplace⟩ := h.2.2.1 hresolved
  cases hsource
  cases hlocation
  have hspan : Entry.parse "3:2:1" = .ok { span := ⟨3, 2⟩, file := 1 } := by decide +kernel
  obtain rfl := Except.ok.inj (hspan.symm.trans hentry)
  exact ⟨⟨d, hd, hresolved, h.2.1.1 (h.1.1 hresolved), hplace⟩, d', hd', hresolved',
    (h'.2.2.2 hresolved').1⟩

end Diagnostic

end ContractAudit
