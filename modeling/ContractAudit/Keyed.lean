/-
  Values under text keys, in the order in which the keys came.

  * `Keyed.lookup?` and `Keyed.insert` read and write the value of a key; an insertion under a
    present key keeps its place (`lookup?_insert`, `keys_insert`).
  * Values that are a function of their keys stay so under insertion (`insert_map`).
  * What is found is the value of an entry (`mem_of_lookup?`), also where all values are changed in
    the same way (`lookup?_mapValues`); every entry is found if no key is repeated
    (`lookup?_of_mem`).
-/

namespace ContractAudit

/-- Values under keys, the first entry of a key counting. -/
abbrev Keyed (α : Type) := List (String × α)

namespace Keyed

variable {α : Type}

/-- The value of a key. -/
def lookup? (key : String) : Keyed α → Option α
  | [] => none
  | (k, v) :: rest => if k = key then some v else lookup? key rest

/-- The entries with `key` set to `value`, at its place if it is present and else at the end. -/
def insert (key : String) (value : α) : Keyed α → Keyed α
  | [] => [(key, value)]
  | (k, v) :: rest => if k = key then (k, value) :: rest else (k, v) :: insert key value rest

/-- The keys, in order. -/
def keys (m : Keyed α) : List String :=
  m.map (·.1)

/-- An inserted value is found, and no other one changes. -/
theorem lookup?_insert (key k : String) (v : α) (m : Keyed α) :
    lookup? k (insert key v m) = if k = key then some v else lookup? k m := by
  induction m with
  | nil => by_cases h : key = k <;> simp [insert, lookup?, h, eq_comm]
  | cons e m ih =>
    obtain ⟨k', v'⟩ := e
    by_cases h : k' = key
    · subst h
      by_cases h' : k' = k
      · simp [insert, lookup?, h']
      · have h'' : ¬ k = k' := fun e => h' e.symm
        simp [insert, lookup?, h', h'']
    · by_cases h' : k' = k
      · subst h'; simp [insert, lookup?, h]
      · simp [insert, lookup?, h, h', ih]

/-- Insertion keeps the order of the keys and puts a new one last. -/
theorem keys_insert (key : String) (v : α) (m : Keyed α) :
    keys (insert key v m) = if key ∈ keys m then keys m else keys m ++ [key] := by
  simp only [keys]
  induction m with
  | nil => rfl
  | cons e m ih =>
    obtain ⟨k, w⟩ := e
    by_cases h : k = key
    · simp [insert, h]
    · have h' : ¬ key = k := fun e => h e.symm
      by_cases hm : key ∈ m.map (·.1)
      · simp only [insert, h, if_false, List.map_cons, ih, hm, if_true, List.mem_cons, or_true]
      · simp only [insert, h, if_false, List.map_cons, ih, hm, List.mem_cons, h', or_self,
          List.cons_append]

/-- Nothing is found under what is no key. -/
theorem lookup?_eq_none_iff {key : String} {m : Keyed α} :
    lookup? key m = none ↔ key ∉ keys m := by
  induction m with
  | nil => simp [lookup?, keys]
  | cons e m ih =>
    obtain ⟨k, v⟩ := e
    by_cases h : k = key
    · simp [lookup?, keys, h]
    · have h' : ¬ key = k := fun e => h e.symm
      simpa [lookup?, keys, h, h'] using ih

/-- Something is found under the keys, and under no other text. -/
theorem isSome_lookup? (key : String) (m : Keyed α) :
    (lookup? key m).isSome = decide (key ∈ keys m) := by
  cases h : lookup? key m with
  | none => simp [lookup?_eq_none_iff.1 h]
  | some v =>
    have hk : ¬ key ∉ keys m := fun hk => by rw [lookup?_eq_none_iff.2 hk] at h; cases h
    simpa using hk

/-- What is found under a key is the value of one of its entries. -/
theorem mem_of_lookup? {key : String} {v : α} {m : Keyed α} (h : lookup? key m = some v) :
    (key, v) ∈ m := by
  induction m with
  | nil => cases h
  | cons e m ih =>
    obtain ⟨k, w⟩ := e
    by_cases hk : k = key
    · simp only [lookup?, hk, if_true, Option.some.injEq] at h
      simp [hk, h]
    · simp only [lookup?, hk, if_false] at h
      exact List.mem_cons_of_mem _ (ih h)

/-- Every entry is found under its key, if no key is repeated. -/
theorem lookup?_of_mem {key : String} {v : α} {m : Keyed α} (hkeys : (keys m).Nodup)
    (h : (key, v) ∈ m) : lookup? key m = some v := by
  induction m with
  | nil => cases h
  | cons e m ih =>
    obtain ⟨k, w⟩ := e
    obtain ⟨hk, hrest⟩ := List.nodup_cons.1 hkeys
    rcases List.mem_cons.1 h with he | hmem
    · cases he
      exact if_pos rfl
    · have hne : k ≠ key := by
        rintro rfl
        exact hk (List.mem_map.2 ⟨_, hmem, rfl⟩)
      rw [lookup?, if_neg hne, ih hrest hmem]

/-- The value of a key, where all values are changed in the same way. -/
theorem lookup?_mapValues {β : Type} (f : α → β) (key : String) (m : Keyed α) :
    lookup? key (m.map fun e => (e.1, f e.2)) = (lookup? key m).map f := by
  induction m with
  | nil => rfl
  | cons e m ih =>
    by_cases h : e.1 = key
    · simp [lookup?, h]
    · simp [lookup?, h, ih]

/-- A new key comes last. -/
theorem insert_of_notMem {key : String} {v : α} {m : Keyed α} (h : key ∉ keys m) :
    insert key v m = m ++ [(key, v)] := by
  induction m with
  | nil => rfl
  | cons e m ih =>
    obtain ⟨k, w⟩ := e
    simp only [keys, List.map_cons, List.mem_cons, not_or] at h
    have hk : ¬ k = key := fun e => h.1 e.symm
    rw [insert, if_neg hk, ih h.2, List.cons_append]

/-- The value of a key, where values are a function of their keys. -/
theorem lookup?_map (f : String → α) (key : String) (ks : List String) :
    lookup? key (ks.map fun k => (k, f k)) = if key ∈ ks then some (f key) else none := by
  induction ks with
  | nil => rfl
  | cons k ks ih =>
    by_cases h : k = key
    · simp [lookup?, h]
    · have h' : ¬ key = k := fun e => h e.symm
      simp [lookup?, h, h', ih]

/-- An insertion, where values are a function of their keys. -/
theorem insert_map (f : String → α) {key : String} {v : α} {ks : List String} (hn : ks.Nodup) :
    insert key v (ks.map fun k => (k, f k)) =
      (if key ∈ ks then ks else ks ++ [key]).map fun k => (k, if k = key then v else f k) := by
  induction ks with
  | nil => simp [insert]
  | cons k ks ih =>
    obtain ⟨hk, hn⟩ := List.nodup_cons.1 hn
    by_cases h : k = key
    · subst h
      have hf : ∀ k' ∈ ks, (k', f k') = (k', if k' = k then v else f k') := fun k' hk' => by
        rw [if_neg]; rintro rfl; exact hk hk'
      simp [insert, List.map_congr_left hf]
    · have h' : ¬ key = k := fun e => h e.symm
      rw [List.map_cons, insert, if_neg h, ih hn]
      by_cases hm : key ∈ ks <;> simp [hm, h, h']

end Keyed

end ContractAudit
