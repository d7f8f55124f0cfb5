/-
  The address in loaded settings.

  * `withoutSlashes_iff`: a text without the slashes at its end is the part of it before them.
  * `isWebAddress_withoutSlashes_iff`: a web address is still one after that, unless nothing but
    slashes follows its scheme.
  * `load_address`: a loaded address never ends with a slash.  It is a web address iff it is no bare
    scheme, and settings that are loaded with it are the same iff it is a web address and no blank
    ends it.

  The address is tested before its slashes are dropped, so a bare scheme can be loaded, and so can
  an address with a blank at its end (`bare_scheme_is_loaded`).
-/
import ContractAudit.Proofs.Settings.Loading

namespace ContractAudit.Settings

/-! ## Slashes at the end -/

/-- Some slashes. -/
def slashes (n : Nat) : List Char :=
  List.replicate n '/'

theorem rdropWhile_append_slashes {t : List Char} (h : t.getLast? ≠ some '/') (n : Nat) :
    (t ++ slashes n).rdropWhile (· == '/') = t := by
  induction n with
  | zero =>
    rw [slashes, List.replicate_zero, List.append_nil, List.rdropWhile_eq_self_iff]
    intro ht hslash
    rw [List.getLast?_eq_some_getLast ht, beq_iff_eq.1 hslash] at h
    exact h rfl
  | succ n ih =>
    rw [slashes, List.replicate_succ', ← List.append_assoc, List.rdropWhile_concat_pos _ _ _ rfl]
    exact ih

/-- **The slashes at the end are dropped, and nothing else.** -/
theorem withoutSlashes_iff {s t : String} :
    withoutSlashes s = t ↔
      t.toList.getLast? ≠ some '/' ∧ ∃ n, s.toList = t.toList ++ slashes n := by
  have hdrop : withoutSlashes s = t ↔ s.toList.rdropWhile (· == '/') = t.toList := by
    rw [← String.toList_inj, withoutSlashes, String.toList_ofList]
    rfl
  rw [hdrop]
  constructor
  · intro ht
    have hrest : ∀ c ∈ s.toList.rtakeWhile (· == '/'), c = '/' :=
      fun c hc => by simpa using List.mem_rtakeWhile_imp hc
    rw [← ht]
    refine ⟨fun hlast => ?_, (s.toList.rtakeWhile (· == '/')).length, ?_⟩
    · obtain ⟨before, hbefore⟩ := List.getLast?_eq_some_iff.1 hlast
      have hidem := List.rdropWhile_idempotent (· == '/') s.toList
      rw [hbefore, List.rdropWhile_concat_pos _ _ _ rfl] at hidem
      have hlength := (List.rdropWhile_prefix (· == '/') before).length_le
      rw [hidem, List.length_append, List.length_singleton] at hlength
      exact Nat.not_succ_le_self _ hlength
    · rw [slashes, ← List.eq_replicate_of_mem hrest, List.rdropWhile_append_rtakeWhile]
  · rintro ⟨hlast, n, hs⟩
    rw [hs, rdropWhile_append_slashes hlast]

theorem withoutSlashes_of_getLast? {s : String} (h : s.toList.getLast? ≠ some '/') :
    withoutSlashes s = s :=
  withoutSlashes_iff.2 ⟨h, 0, (List.append_nil _).symm⟩

/-- What is left of a text that begins with a scheme and two slashes does so too, or it is the
scheme alone. -/
theorem withoutSlashes_of_scheme {scheme : String} (hscheme : scheme.toList.getLast? ≠ some '/')
    {s : String} (h : scheme.toList ++ slashes 2 <+: s.toList) :
    withoutSlashes s = scheme ∨ scheme.toList ++ slashes 2 <+: (withoutSlashes s).toList := by
  obtain ⟨hlast, n, hs⟩ := withoutSlashes_iff.1 (rfl : withoutSlashes s = withoutSlashes s)
  rw [hs] at h
  obtain ⟨rest, hrest⟩ := h
  rcases List.append_eq_append_iff.1 hrest with ⟨more, hmore, -⟩ | ⟨more, hmore, hslashes⟩
  · exact .inr ⟨more, hmore.symm⟩
  · -- the two slashes, or one of them, are among those that are dropped
    left
    have hmore' : more = slashes more.length :=
      List.eq_replicate_of_mem fun c hc => List.eq_of_mem_replicate
        (hslashes ▸ List.mem_append_left rest hc : c ∈ slashes n)
    rw [← String.toList_inj, ← rdropWhile_append_slashes hscheme 2, hmore, hmore',
      rdropWhile_append_slashes hlast]

theorem isWebAddress_iff {s : String} : isWebAddress s = true ↔
    "http:".toList ++ slashes 2 <+: s.toList ∨ "https:".toList ++ slashes 2 <+: s.toList := by
  rw [isWebAddress, Bool.or_eq_true, String.startsWith_string_iff, String.startsWith_string_iff]
  rfl

theorem ne_empty_of_isWebAddress {s : String} (h : isWebAddress s = true) : s ≠ "" := by
  rintro rfl
  rw [isWebAddress_iff] at h
  revert h
  decide

/-- A web address without its slashes is one, or it is a bare scheme. -/
theorem isWebAddress_withoutSlashes_iff {s : String} (h : isWebAddress s = true) :
    isWebAddress (withoutSlashes s) = true ↔
      withoutSlashes s ≠ "http:" ∧ withoutSlashes s ≠ "https:" := by
  rw [isWebAddress_iff] at h ⊢
  constructor
  · intro hkept
    constructor <;>
    · intro hbare
      rw [hbare] at hkept
      revert hkept
      decide
  · rintro ⟨hhttp, hhttps⟩
    exact h.imp (fun h => (withoutSlashes_of_scheme (by decide) h).resolve_left hhttp)
      fun h => (withoutSlashes_of_scheme (by decide) h).resolve_left hhttps

/-! ## Loading once more -/

namespace Given

theorem IsReadFrom.unique {g g' : Given} {env : Json.Members} (h : g.IsReadFrom env)
    (h' : g'.IsReadFrom env) : g = g' := by
  obtain ⟨apiKey, username, password, url, compiler⟩ := g
  cases h.apiKey.symm.trans h'.apiKey
  cases h.username.symm.trans h'.username
  cases h.password.symm.trans h'.password
  cases h.url.symm.trans h'.url
  cases h.compiler.symm.trans h'.compiler
  rfl

/-- The reading with another address. -/
def withUrl (g : Given) (url : String) : Given :=
  { g with url := if Text.trimmed url = "" then none else some (Text.trimmed url) }

theorem IsReadFrom.insert {g : Given} {env : Json.Members} (h : g.IsReadFrom env) (url : String) :
    (g.withUrl url).IsReadFrom (Keyed.insert "MYTHX_API_URL" (.str url) env) := by
  have hother {names : List String} (hnames : "MYTHX_API_URL" ∉ names) :
      valueOf? (Keyed.insert "MYTHX_API_URL" (.str url) env) names = valueOf? env names := by
    refine valueOf?_congr fun name hname => ?_
    have hne : name ≠ "MYTHX_API_URL" := fun heq => hnames (heq ▸ hname)
    rw [settingIn, Keyed.lookup?_insert, if_neg hne]
    rfl
  cases g
  exact {
    apiKey := (hother (by decide)).trans h.apiKey
    username := (hother (by decide)).trans h.username
    password := (hother (by decide)).trans h.password
    compiler := (hother (by decide)).trans h.compiler
    url := by
      rw [valueOf?_cons, settingIn, Keyed.lookup?_insert, if_pos rfl, Option.getD_some,
        settingOf_str, withUrl]
      split <;> rfl }

theorem settings_withUrl (g : Given) (url : String) :
    (g.withUrl url).settings =
      { g.settings with apiUrl := withoutSlashes (g.withUrl url).address } := by
  cases g
  rfl

theorem address_withUrl (g : Given) {url : String} (hweb : isWebAddress url = true)
    (hstripped : Text.IsStripped url) : (g.withUrl url).address = url := by
  rw [address, withUrl, Text.trimmed_of_isStripped hstripped,
    if_neg (ne_empty_of_isWebAddress hweb), Option.getD_some]

theorem address_withUrl_of_withoutSlashes {g : Given} {url : String}
    (h : withoutSlashes (g.withUrl url).address = url) :
    (g.withUrl url).address = url ∧ Text.IsStripped url := by
  by_cases hset : Text.trimmed url = ""
  · -- the usual address is no blank text
    rw [address, withUrl, if_pos hset, Option.getD_none] at h
    rw [← h] at hset
    exact absurd hset (by decide +kernel)
  · rw [address, withUrl, if_neg hset, Option.getD_some] at h ⊢
    obtain ⟨-, n, hn⟩ := withoutSlashes_iff.1 h
    have hsub : url.toList.Sublist (Text.trimmed url).toList := by
      rw [hn]
      exact List.sublist_append_left ..
    have hkept : Text.trimmed url = url :=
      String.toList_inj.1 ((Text.infix_trimmed url).sublist.antisymm hsub)
    have hstripped := Text.isStripped_trimmed url
    rw [hkept] at hstripped
    exact ⟨hkept, hstripped⟩

end Given

/-- **What a loaded address is.** It is the address that was given, without the slashes at its end.
It is a web address unless nothing but slashes followed the scheme; and settings that are loaded
with it in the place of that address are the same iff it is a web address and has no blank at its
end. -/
theorem load_address {env : Json.Members} {s : Settings} (h : load env = .ok s) :
    (∃ g : Given, g.IsReadFrom env ∧ ∃ n, g.address.toList = s.apiUrl.toList ++ slashes n) ∧
    s.apiUrl.toList.getLast? ≠ some '/' ∧
    (isWebAddress s.apiUrl = true ↔ s.apiUrl ≠ "http:" ∧ s.apiUrl ≠ "https:") ∧
    (load (Keyed.insert "MYTHX_API_URL" (.str s.apiUrl) env) = .ok s ↔
      isWebAddress s.apiUrl = true ∧ Text.IsStripped s.apiUrl) := by
  obtain ⟨g, hg, hpair, hweb, hs⟩ := load_eq_ok_iff.1 h
  have hurl : withoutSlashes g.address = s.apiUrl := by rw [hs]; rfl
  obtain ⟨hlast, n, hn⟩ := withoutSlashes_iff.1 hurl
  have hscheme := isWebAddress_withoutSlashes_iff hweb
  rw [hurl] at hscheme
  refine ⟨⟨g, hg, n, hn⟩, hlast, hscheme, ?_⟩
  rw [load_eq_ok_iff]
  constructor
  · rintro ⟨g', hg', -, hweb', hs'⟩
    obtain rfl := hg'.unique (hg.insert s.apiUrl)
    have hkept : withoutSlashes (g.withUrl s.apiUrl).address = s.apiUrl :=
      (congrArg apiUrl hs').symm
    obtain ⟨haddress, hstripped⟩ := Given.address_withUrl_of_withoutSlashes hkept
    rw [haddress] at hweb'
    exact ⟨hweb', hstripped⟩
  · rintro ⟨hweb', hstripped⟩
    have haddress := g.address_withUrl hweb' hstripped
    have hkept : s = (g.withUrl s.apiUrl).settings := by
      rw [g.settings_withUrl, haddress, withoutSlashes_of_getLast? hlast, hs]
    rw [← haddress] at hweb'
    exact ⟨g.withUrl s.apiUrl, hg.insert s.apiUrl, hpair, hweb', hkept⟩

/-- The settings of an address with the trial account. -/
def onTrial (url : String) : Settings :=
  { apiUrl := url, username := some trialName, password := some trialPassword }

/-- Where only an address is given, it is used with the trial account. -/
theorem load_singleton {given : String} (hset : Text.trimmed given ≠ "") :
    load [("MYTHX_API_URL", .str given)] =
      if isWebAddress (Text.trimmed given) then .ok (onTrial (withoutSlashes (Text.trimmed given)))
      else failWith (.badUrl (Text.trimmed given)) := by
  have hread : valueOf? [("MYTHX_API_URL", .str given)] ["MYTHX_API_URL"] =
      .ok (some (Text.trimmed given)) := by
    rw [valueOf?_cons, settingIn, Keyed.lookup?, if_pos rfl, Option.getD_some, settingOf_str,
      if_neg hset]
    rfl
  have hother (name : String) (hname : "MYTHX_API_URL" ≠ name) (names : List String) :
      valueOf? [("MYTHX_API_URL", .str given)] (name :: names) =
        valueOf? [("MYTHX_API_URL", .str given)] names := by
    rw [valueOf?_cons, settingIn, Keyed.lookup?, if_neg hname]
    rfl
  rw [load, hread, hother _ (by decide), hother _ (by decide), hother _ (by decide),
    hother _ (by decide), hother _ (by decide)]
  simp only [valueOf?, liftM_ok, failWith, ok_bind, Option.isNone_none, Option.getD_some,
    Option.getD_none, bne_self_eq_false, Bool.false_eq_true, if_false]
  cases isWebAddress (Text.trimmed given) <;> rfl

theorem load_singleton_eq_ok {given url : String}
    (hweb : isWebAddress (Text.trimmed given) = true)
    (hurl : withoutSlashes (Text.trimmed given) = url) :
    load [("MYTHX_API_URL", .str given)] = .ok (onTrial url) := by
  rw [load_singleton (ne_empty_of_isWebAddress hweb), if_pos hweb, hurl]

/-- Blanks around an address and slashes at its end. -/
theorem padded_address_is_kept :
    let env : Json.Members := [("MYTHX_API_URL", .str " https://staging.example.com/v1// ")]
    let s := onTrial "https://staging.example.com/v1"
    load env = .ok s ∧ s.apiUrl.toList.getLast? ≠ some '/' ∧ isWebAddress s.apiUrl = true ∧
      load (Keyed.insert "MYTHX_API_URL" (.str s.apiUrl) env) = .ok s := by
  intro env s
  have hload : load env = .ok s := load_singleton_eq_ok (by decide +kernel) (by decide +kernel)
  obtain ⟨-, hlast, hweb, hagain⟩ := load_address hload
  have hweb := hweb.2 ⟨by decide, by decide⟩
  exact ⟨hload, hlast, hweb, hagain.2 ⟨hweb, by decide +kernel⟩⟩

/-- A bare scheme is loaded, although it is refused when it is given; and of a blank before a slash
the blank is kept, and dropped the next time. -/
theorem bare_scheme_is_loaded :
    (load [("MYTHX_API_URL", .str "http://")] = .ok (onTrial "http:") ∧
      load [("MYTHX_API_URL", .str "http:")] = failWith (.badUrl "http:")) ∧
    load [("MYTHX_API_URL", .str "https://x /")] = .ok (onTrial "https://x ") ∧
      load [("MYTHX_API_URL", .str "https://x ")] = .ok (onTrial "https://x") := by
  refine ⟨⟨load_singleton_eq_ok ?_ ?_, ?_⟩, load_singleton_eq_ok ?_ ?_, load_singleton_eq_ok ?_ ?_⟩
  case refine_3 => exact load_singleton (by decide +kernel)
  all_goals decide +kernel

end ContractAudit.Settings
