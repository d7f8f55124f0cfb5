/-
  Settings that give access to the service.

  * `GivesAccess`: name and password are both missing or both given, and without a key they are
    given.  All settings that are loaded are such (`givesAccess_of_load`), and so are those with
    another client name or compiler (`withOptions`).
  * `SaysAlike`: two values of a variable differ only in the blanks around them, or in that one of
    them is missing and the other one blank.
  * `load_givesAccess`: the client of loaded settings never lacks credentials, whatever it is asked
    for and whatever the replies are, and environments that say alike load alike.
-/
import ContractAudit.Proofs.Service.Access
import ContractAudit.Proofs.Settings.Loading

namespace ContractAudit

open Service (Call Session runAll)

namespace Settings

/-! ## Access -/

/-- Name and password are both missing, or both given and stripped; without a key they are given. -/
structure GivesAccess (s : Settings) : Prop where
  paired : (s.username = none ∧ s.password = none) ∨
    ∃ name word, s.username = some name ∧ s.password = some word ∧ IsGiven name ∧ IsGiven word
  complete : s.apiKey = none → s.username ≠ none ∧ s.password ≠ none

theorem isGiven_trialName : IsGiven trialName :=
  ⟨by decide, by decide +kernel⟩

theorem isGiven_trialPassword : IsGiven trialPassword :=
  ⟨by decide, by decide +kernel⟩

/-- **Loaded settings give access.** -/
theorem givesAccess_of_load {env : Json.Members} {s : Settings} (h : load env = .ok s) :
    s.GivesAccess := by
  obtain ⟨g, hg, hpair, -, rfl⟩ := load_eq_ok_iff.1 h
  have hname : g.settings.username = if g.isOnTrial then some trialName else g.username := rfl
  have hword : g.settings.password = if g.isOnTrial then some trialPassword else g.password := rfl
  cases htrial : g.isOnTrial with
  | true =>
    rw [htrial, if_pos rfl] at hname hword
    exact {
      paired := .inr ⟨_, _, hname, hword, isGiven_trialName, isGiven_trialPassword⟩
      complete := fun _ => ⟨hname ▸ nofun, hword ▸ nofun⟩ }
  | false =>
    rw [htrial, if_neg Bool.false_ne_true] at hname hword
    cases huser : g.username with
    | none =>
      rw [huser, Option.isNone_none, eq_comm, Option.isNone_iff_eq_none] at hpair
      exact {
        paired := .inl ⟨hname.trans huser, hword.trans hpair⟩
        complete := fun hkey => by
          have hkey : g.apiKey = none := hkey
          rw [Given.isOnTrial, hkey, huser] at htrial
          cases htrial }
    | some name =>
      obtain ⟨word, hpassword⟩ : ∃ word, g.password = some word := by
        rw [huser, Option.isNone_some, eq_comm, Option.isNone_eq_false_iff] at hpair
        exact Option.isSome_iff_exists.1 hpair
      rw [huser] at hname
      rw [hpassword] at hword
      exact {
        paired := .inr ⟨name, word, hname, hword,
          isGiven_of_valueOf? (hg.username.trans (congrArg _ huser)),
          isGiven_of_valueOf? (hg.password.trans (congrArg _ hpassword))⟩
        complete := fun _ => ⟨hname ▸ nofun, hword ▸ nofun⟩ }

/-- The settings with another client name and another compiler, where these are given. -/
def withOptions (s : Settings) (clientName compiler : Option String) : Settings :=
  { s with
    clientName := clientName.getD s.clientName
    compiler := compiler.getD s.compiler }

theorem overridden_eq (s : Settings) (clientName compiler : Option String) :
    s.overridden [("client_tool_name", .ofText? clientName), ("solc", .ofText? compiler)] =
      .ok (s.withOptions clientName compiler).toMembers := by
  cases clientName <;> cases compiler <;> rfl

/-- The session of a client before its first call. -/
def start (s : Settings) (replies : List Service.Reply) : Session :=
  { token := s.apiKey.map .str, replies }

/-- The client of settings that give access has access. -/
theorem GivesAccess.hasAccess {s : Settings} (h : s.GivesAccess) (replies : List Service.Reply) :
    (Service.Client.ofSettings s).HasAccess (s.start replies) := by
  cases hkey : s.apiKey with
  | some key =>
    left
    rw [start, hkey]
    exact nofun
  | none =>
    right
    obtain ⟨hname, -⟩ := h.complete hkey
    obtain ⟨name, word, hname, hword, hn, hw⟩ := h.paired.resolve_left fun hnone => hname hnone.1
    have hset {s : String} (hs : IsGiven s) : (Json.ofText? (some s)).isSet = true := by
      simp [Json.ofText?, Json.isSet, hs.1]
    rw [Service.Client.hasAccount, Service.Client.ofSettings, Service.Client.ofAddress, hname,
      hword, hset hn, hset hw]
    rfl

/-! ## Blanks -/

/-- The values of a variable, if they are not missing, differ at most in blanks around them; a blank
one is like one that is missing. -/
inductive SaysAlike : Option Json → Option Json → Prop
  | same {v} : SaysAlike v v
  | spaced {s t} : Text.trimmed s = Text.trimmed t → SaysAlike (some (.str s)) (some (.str t))
  | blank {s} : Text.IsAllBlank s → SaysAlike (some (.str s)) none
  | missing {s} : Text.IsAllBlank s → SaysAlike none (some (.str s))

theorem settingOf_of_isAllBlank {s : String} (h : Text.IsAllBlank s) :
    settingOf (.str s) = .ok none := by
  rw [settingOf_str, if_pos (Text.trimmed_eq_empty_iff.2 h)]

theorem SaysAlike.settingOf_eq {v w : Option Json} (h : SaysAlike v w) :
    settingOf (v.getD .null) = settingOf (w.getD .null) := by
  cases h with
  | same => rfl
  | spaced h => exact (settingOf_str _).trans (h ▸ (settingOf_str _).symm)
  | blank h => exact settingOf_of_isAllBlank h
  | missing h => exact (settingOf_of_isAllBlank h).symm

theorem load_congr {env env' : Json.Members} (h : ∀ name ∈ variableNames,
    SaysAlike (Keyed.lookup? name env) (Keyed.lookup? name env')) : load env = load env' := by
  have hvalue {names : List String} (hnames : names ⊆ variableNames) :
      valueOf? env names = valueOf? env' names :=
    valueOf?_congr fun name hname => (h name (hnames hname)).settingOf_eq
  rw [load, hvalue (by decide), hvalue (by decide), hvalue (by decide), hvalue (by decide),
    hvalue (by decide)]
  rfl

/-- **Loaded settings always give access**, whatever the environment is: a key, or a name and a
password that are given. Their client, also with another name for itself and another compiler, never
fails for want of credentials, in whatever order its calls come and whatever the replies are, unless
it is asked to log in. And only what the variables say counts: neither the blanks around a value nor
the difference between a blank value and none. -/
theorem load_givesAccess :
    (∀ (env : Json.Members) (s : Settings), load env = .ok s → s.GivesAccess ∧
      ∀ clientName compiler : Option String,
        s.overridden [("client_tool_name", .ofText? clientName), ("solc", .ofText? compiler)] =
          .ok (s.withOptions clientName compiler).toMembers ∧
        ∀ (replies : List Service.Reply)
          (earlier : List (Call (.ofSettings (s.withOptions clientName compiler))))
          (call : Call (.ofSettings (s.withOptions clientName compiler))), call ≠ .login →
          call.failure? (runAll earlier ((s.withOptions clientName compiler).start replies)) ≠
            some (.error .noCredentials)) ∧
    ∀ env env' : Json.Members, (∀ name ∈ variableNames,
      SaysAlike (Keyed.lookup? name env) (Keyed.lookup? name env')) → load env = load env' := by
  refine ⟨fun env s hload => ?_, fun env env' h => load_congr h⟩
  have haccess := givesAccess_of_load hload
  refine ⟨haccess, fun clientName compiler => ⟨s.overridden_eq clientName compiler,
    fun replies earlier call hcall => ?_⟩⟩
  -- the options leave the account alone
  have hoptions : (s.withOptions clientName compiler).GivesAccess := ⟨haccess.1, haccess.2⟩
  exact Call.failure?_of_hasAccess ((hoptions.hasAccess replies).runAll earlier) hcall

/-- Blanks around a name and a password, and a blank name before it. -/
theorem padded_account_givesAccess :
    let env : Json.Members := [("MYTHX_USERNAME", .str " \t"),
      ("MYTHX_ETH_ADDRESS", .str " 0xabc "), ("MYTHX_PASSWORD", .str "pw\n")]
    let env' : Json.Members := [("MYTHX_PASSWORD", .str "pw"), ("MYTHX_ETH_ADDRESS", .str "0xabc")]
    let s : Settings :=
      { apiUrl := defaultUrl, username := some "0xabc", password := some "pw" }
    let c := Service.Client.ofSettings (s.withOptions none (some "solc-0.5"))
    load env = .ok s ∧ s.GivesAccess ∧
      ((.statusRecord (.str "job") : Call c) ≠ .login ∧
        (.statusRecord (.str "job") : Call c).failure?
          (runAll [(.login : Call c), .analyses] ((s.withOptions none (some "solc-0.5")).start
            [.answer 401 "", .lost "reset"])) ≠ some (.error .noCredentials)) ∧
      (∀ name ∈ variableNames, SaysAlike (Keyed.lookup? name env) (Keyed.lookup? name env')) ∧
      load env = load env' := by
  intro env env' s c
  have htrimmed : Text.trimmed " 0xabc " = "0xabc" ∧ Text.trimmed "pw\n" = "pw" ∧
      Text.trimmed "0xabc" = "0xabc" ∧ Text.trimmed "pw" = "pw" := by decide +kernel
  have hblank : Text.IsAllBlank " \t" := Text.trimmed_eq_empty_iff.1 (by decide +kernel)
  have hload : load env = .ok s := by
    refine load_eq_ok_iff.2 ⟨⟨none, some "0xabc", some "pw", none, none⟩, ⟨rfl, ?_, ?_, rfl, rfl⟩,
      rfl, by decide +kernel, ?_⟩
    · simp [valueOf?_cons, settingIn, env, Keyed.lookup?, settingOf_of_isAllBlank hblank,
        settingOf_str, htrimmed]
    · simp [valueOf?_cons, settingIn, env, Keyed.lookup?, settingOf_str, htrimmed]
    · simp [s, Given.settings, Given.isOnTrial, Given.address, withoutSlashes, defaultUrl]
  have hcall : (.statusRecord (.str "job") : Call c) ≠ .login := by simp
  have halike : ∀ name ∈ variableNames,
      SaysAlike (Keyed.lookup? name env) (Keyed.lookup? name env') := by
    simp only [variableNames, List.forall_mem_cons]
    exact ⟨.same, .blank hblank, .spaced (by simp [htrimmed]), .spaced (by simp [htrimmed]), .same,
      .same, List.forall_mem_nil _⟩
  obtain ⟨haccess, hcalls⟩ := load_givesAccess.1 env s hload
  exact ⟨hload, haccess, ⟨hcall, (hcalls none (some "solc-0.5")).2 _ _ _ hcall⟩, halike,
    load_givesAccess.2 env env' halike⟩
end Settings

end ContractAudit
