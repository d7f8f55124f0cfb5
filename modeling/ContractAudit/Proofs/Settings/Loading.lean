/-
  What the variables of an environment set.

  * `settingOf`: what the value of a variable says.  Blanks around a text say nothing, and neither
    does a text of blanks, null, or a variable that is missing.
  * `valueOf?_congr`: only what is said counts where one of some variables is read, and
    `isGiven_of_valueOf?`: what is read is stripped and holds something.
  * `load_eq_ok_iff`: settings are loaded iff the account is complete and the address is a web
    address, and then they are what the variables say.
-/
import ContractAudit.Proofs.Answers
import ContractAudit.Proofs.Text.Blank
import ContractAudit.Settings

namespace ContractAudit.Settings

/-- The variables that settings are loaded from. -/
def variableNames : List String :=
  ["MYTHX_API_KEY", "MYTHX_USERNAME", "MYTHX_ETH_ADDRESS", "MYTHX_PASSWORD", "MYTHX_API_URL",
    "SOLC"]

/-- What the value of a variable says, if it says anything. -/
def settingOf : Json → Except Defect (Option String)
  | .null => .ok none
  | v => v.asText.map fun s => if Text.trimmed s = "" then none else some (Text.trimmed s)

/-- What a variable of an environment says. -/
def settingIn (env : Json.Members) (name : String) : Except Defect (Option String) :=
  settingOf ((Keyed.lookup? name env).getD .null)

/-- The text holds something and has no blanks around it. -/
def IsGiven (s : String) : Prop :=
  s ≠ "" ∧ Text.IsStripped s

section
variable {env env' : Json.Members} {name : String} {names : List String}

theorem settingOf_str (s : String) :
    settingOf (.str s) = .ok (if Text.trimmed s = "" then none else some (Text.trimmed s)) := rfl

theorem isGiven_of_settingOf {v : Json} {value : String} (h : settingOf v = .ok (some value)) :
    IsGiven value := by
  cases v with
  | str s =>
    rw [settingOf_str, Except.ok.injEq] at h
    split at h
    · cases h
    · next hset =>
      cases h
      exact ⟨hset, Text.isStripped_trimmed s⟩
  | _ => cases h

/-- The first variable that says something is read. -/
theorem valueOf?_cons :
    valueOf? env (name :: names) = settingIn env name >>= fun
      | some value => .ok (some value)
      | none => valueOf? env names := by
  rw [valueOf?, settingIn]
  cases (Keyed.lookup? name env).getD .null with
  | str s =>
    rw [settingOf_str, ok_bind]
    change (if Text.trimmed s = "" then valueOf? env names else .ok (some (Text.trimmed s))) = _
    split <;> rfl
  | _ => rfl

/-- **Only what the variables say counts.** -/
theorem valueOf?_congr (h : ∀ name ∈ names, settingIn env name = settingIn env' name) :
    valueOf? env names = valueOf? env' names := by
  induction names with
  | nil => rfl
  | cons name names ih =>
    obtain ⟨hname, hnames⟩ := List.forall_mem_cons.1 h
    rw [valueOf?_cons, valueOf?_cons, hname, ih hnames]

/-- **What is read is given.** -/
theorem isGiven_of_valueOf? {value : String} (h : valueOf? env names = .ok (some value)) :
    IsGiven value := by
  induction names with
  | nil => cases h
  | cons name names ih =>
    rw [valueOf?_cons, bind_eq_ok] at h
    obtain ⟨_ | own, hown, hrest⟩ := h
    · exact ih hrest
    · cases hrest
      exact isGiven_of_settingOf hown

end

/-! ## Loading -/

/-- What the variables say: the key, the name, the password, the address and the compiler. -/
structure Given where
  apiKey : Option String
  username : Option String
  password : Option String
  url : Option String
  compiler : Option String

/-- The variables of an environment say so. -/
structure Given.IsReadFrom (g : Given) (env : Json.Members) : Prop where
  apiKey : valueOf? env ["MYTHX_API_KEY"] = .ok g.apiKey
  username : valueOf? env ["MYTHX_USERNAME", "MYTHX_ETH_ADDRESS"] = .ok g.username
  password : valueOf? env ["MYTHX_PASSWORD"] = .ok g.password
  url : valueOf? env ["MYTHX_API_URL"] = .ok g.url
  compiler : valueOf? env ["SOLC"] = .ok g.compiler

namespace Given

/-- The address that is given, or the usual one. -/
def address (g : Given) : String :=
  g.url.getD defaultUrl

/-- Whether neither a key nor an account is given. -/
def isOnTrial (g : Given) : Bool :=
  g.apiKey.isNone && g.username.isNone

/-- The settings that are given. -/
def settings (g : Given) : Settings :=
  { apiUrl := withoutSlashes g.address
    apiKey := g.apiKey
    username := if g.isOnTrial then some trialName else g.username
    password := if g.isOnTrial then some trialPassword else g.password
    compiler := g.compiler.getD defaultCompiler }

end Given

theorem ite_error_eq_ok {ε α : Type} {c : Prop} [Decidable c] {e : ε} {x : Except ε α} {a : α} :
    (if c then .error e else x) = .ok a ↔ ¬ c ∧ x = .ok a := by
  split <;> simp [*]

/-- **Settings are loaded iff the account is complete and the address is a web address.** -/
theorem load_eq_ok_iff {env : Json.Members} {s : Settings} :
    load env = .ok s ↔ ∃ g : Given, g.IsReadFrom env ∧ g.username.isNone = g.password.isNone ∧
      isWebAddress g.address = true ∧ s = g.settings := by
  simp only [load, bind_eq_ok, liftM_eq_ok, failWith_bind, ite_error_eq_ok, bne_iff_ne,
    Decidable.not_not, Bool.not_eq_true', Bool.not_eq_false]
  constructor
  · rintro ⟨apiKey, hkey, username, hname, password, hword, hpair, url, hurl, hweb, compiler,
      hcompiler, h⟩
    cases h
    exact ⟨⟨apiKey, username, password, url, compiler⟩, ⟨hkey, hname, hword, hurl, hcompiler⟩,
      hpair, hweb, rfl⟩
  · rintro ⟨g, hg, hpair, hweb, rfl⟩
    exact ⟨_, hg.apiKey, _, hg.username, _, hg.password, hpair, _, hg.url, hweb, _, hg.compiler,
      rfl⟩

end ContractAudit.Settings
