/-
  Operations in a row, and operations that are tried on every element of a list.

  * `bind_eq_ok`: an answer after another one;
  * `mapM_eq_ok_iff`: all of them have an answer iff the answers are those of the elements, in
    order;
  * `mapM_eq_ok_map`, `mapM_append_eq_ok` and `mem_iff_of_mapM`: the answers as a map, of two lists
    and as a set; `exists_of_mapM`: no element is left out;
  * `mapM_eq_of_forall₂` and `forall₂_of_mapM`: two lists whose elements have the same, or related,
    answers;
  * `exists_of_mapM_error`: a failure is that of an element;
  * `filterM_eq_ok_nil`: a test that keeps none has failed on each.

`Returns x` says that `x` has an answer, `Yields x P` that `P` holds of the answer of `x` if it has
one, and `FailsBy x P` that `P` holds of its failure if it has none.  `Refuses x P` says when there
is no answer: `x` refuses a value of a wrong kind iff `P` holds, and has an answer otherwise.
-/
import Mathlib.Data.List.Forall2
import ContractAudit.Defect

namespace ContractAudit

section
variable {ε α β : Type} {f : α → Except ε β}

theorem bind_eq_ok {x : Except ε α} {b : β} : (x >>= f) = .ok b ↔ ∃ a, x = .ok a ∧ f a = .ok b := by
  cases x <;> simp

theorem toOption_eq_some_iff {x : Except ε α} {a : α} : x.toOption = some a ↔ x = .ok a := by
  cases x <;> simp [Except.toOption]

/-- **An operation on a list answers iff it answers on every element.** -/
theorem mapM_eq_ok_iff {l : List α} {answers : List β} :
    l.mapM f = .ok answers ↔ List.Forall₂ (fun a b => f a = .ok b) l answers := by
  induction l generalizing answers with
  | nil =>
    rw [List.mapM_nil, List.forall₂_nil_left_iff]
    exact ⟨fun h => (Except.ok.inj h).symm, fun h => congrArg Except.ok h.symm⟩
  | cons a l ih =>
    rw [List.mapM_cons, List.forall₂_cons_left_iff]
    constructor
    · intro h
      obtain ⟨b, ha, h⟩ := bind_eq_ok.1 h
      obtain ⟨rest, hl, h⟩ := bind_eq_ok.1 h
      cases h
      exact ⟨b, rest, ha, ih.1 hl, rfl⟩
    · rintro ⟨b, rest, ha, hl, rfl⟩
      rw [ha, ih.2 hl]; rfl

theorem mapM_eq_ok_map {g : α → β} {l : List α} (h : ∀ a ∈ l, f a = .ok (g a)) :
    l.mapM f = .ok (l.map g) := by
  rw [mapM_eq_ok_iff, List.forall₂_map_right_iff, List.forall₂_same]
  exact h

theorem mapM_eq_of_forall₂ {γ : Type} {g : γ → Except ε β} {l : List α} {m : List γ}
    (h : List.Forall₂ (fun a c => f a = g c) l m) : l.mapM f = m.mapM g := by
  induction h with
  | nil => rfl
  | cons ha _ ih => rw [List.mapM_cons, List.mapM_cons, ha, ih]

/-- Related elements with related answers have related lists of answers. -/
theorem forall₂_of_mapM {γ δ : Type} {g : γ → Except ε δ} {R : α → γ → Prop} {S : β → δ → Prop}
    (hstep : ∀ a c, R a c → ∀ b d, f a = .ok b → g c = .ok d → S b d) {l : List α} {m : List γ}
    (h : List.Forall₂ R l m) {answers : List β} {others : List δ} (hl : l.mapM f = .ok answers)
    (hm : m.mapM g = .ok others) : List.Forall₂ S answers others := by
  rw [mapM_eq_ok_iff] at hl hm
  induction h generalizing answers others with
  | nil =>
    cases hl
    cases hm
    exact .nil
  | cons hac _ ih =>
    cases hl with
    | cons ha hl =>
      cases hm with
      | cons hc hm => exact .cons (hstep _ _ hac _ _ ha hc) (ih hl hm)

theorem mapM_append_eq_ok {l m : List α} {answers others : List β} (hl : l.mapM f = .ok answers)
    (hm : m.mapM f = .ok others) : (l ++ m).mapM f = .ok (answers ++ others) := by
  rw [mapM_eq_ok_iff] at hl hm ⊢
  exact List.rel_append hl hm

theorem mem_iff_of_mapM {l : List α} {answers : List β} (h : l.mapM f = .ok answers) (b : β) :
    b ∈ answers ↔ ∃ a ∈ l, f a = .ok b := by
  induction mapM_eq_ok_iff.1 h with
  | nil => simp
  | @cons a b' l answers ha hrest ih =>
    have hb : f a = .ok b ↔ b = b' := by rw [ha, Except.ok.injEq, eq_comm]
    simp only [List.mem_cons, exists_eq_or_imp, hb, ih (mapM_eq_ok_iff.2 hrest)]

theorem exists_of_mapM {l : List α} {answers : List β} (h : l.mapM f = .ok answers) :
    ∀ a ∈ l, ∃ b, f a = .ok b ∧ b ∈ answers := by
  induction mapM_eq_ok_iff.1 h with
  | nil => simp
  | @cons a b l answers ha hrest ih =>
    refine List.forall_mem_cons.2 ⟨⟨b, ha, List.mem_cons_self⟩, fun a' ha' => ?_⟩
    obtain ⟨b', hb', hmem⟩ := ih (mapM_eq_ok_iff.2 hrest) a' ha'
    exact ⟨b', hb', List.mem_cons_of_mem _ hmem⟩

/-- An operation that fails on a list fails on an element in the same way. -/
theorem exists_of_mapM_error {l : List α} {e : ε} (h : l.mapM f = .error e) :
    ∃ a ∈ l, f a = .error e := by
  induction l with
  | nil => cases h
  | cons a l ih =>
    rw [List.mapM_cons] at h
    cases ha : f a with
    | error e' =>
      rw [ha] at h
      cases h
      exact ⟨a, List.mem_cons_self, ha⟩
    | ok b =>
      rw [ha, ok_bind] at h
      cases hl : l.mapM f with
      | error e' =>
        rw [hl] at h
        cases h
        obtain ⟨a', ha', herror⟩ := ih hl
        exact ⟨a', List.mem_cons_of_mem _ ha', herror⟩
      | ok bs =>
        rw [hl] at h
        cases h

/-- A test that keeps no element has the answer no on each of them. -/
theorem filterM_eq_ok_nil {test : α → Except ε Bool} {l : List α} (h : l.filterM test = .ok []) :
    ∀ a ∈ l, test a = .ok false := by
  -- `filterM` gathers what is kept in front of `kept`
  have hkept : ∀ {l kept all : List α}, l.filterAuxM test kept = .ok all →
      kept.length ≤ all.length ∧ (all.length = kept.length → ∀ a ∈ l, test a = .ok false) := by
    intro l
    induction l with
    | nil =>
      intro kept all h
      cases h
      simp
    | cons a l ih =>
      intro kept all h
      obtain ⟨b, ha, h⟩ := bind_eq_ok.1 h
      obtain ⟨hle, hall⟩ := ih h
      cases b with
      | false => exact ⟨hle, fun hlen => List.forall_mem_cons.2 ⟨ha, hall hlen⟩⟩
      | true =>
        simp only [cond_true, List.length_cons] at hle
        exact ⟨by omega, fun hlen => by omega⟩
  obtain ⟨all, hl, h⟩ := bind_eq_ok.1 h
  obtain rfl : all = [] := List.reverse_eq_nil_iff.1 (Except.ok.inj h)
  exact (hkept hl).2 rfl

end

/-! ## Answers of steps -/

section
variable {ε α β : Type} {x : Except ε α} {f : α → Except ε β}

/-- The operation has an answer. -/
def Returns (x : Except ε α) : Prop :=
  ∃ a, x = .ok a

instance : Decidable (Returns x) :=
  match x with
  | .ok a => .isTrue ⟨a, rfl⟩
  | .error _ => .isFalse nofun

namespace Returns

@[simp] theorem ok (a : α) : Returns (.ok a : Except ε α) :=
  ⟨a, rfl⟩

@[simp] theorem pure (a : α) : Returns (Pure.pure a : Except ε α) :=
  ⟨a, rfl⟩

@[simp] theorem not_error (e : ε) : ¬ Returns (.error e : Except ε α) :=
  nofun

theorem bind_iff : Returns (x >>= f) ↔ ∃ a, x = .ok a ∧ Returns (f a) := by
  cases x <;> simp

theorem bind_iff_of_returns (hf : ∀ a, Returns (f a)) : Returns (x >>= f) ↔ Returns x := by
  rw [bind_iff]
  exact ⟨fun ⟨a, ha, _⟩ => ⟨a, ha⟩, fun ⟨a, ha⟩ => ⟨a, ha, hf a⟩⟩

/-- Both steps have to answer, where the second one does so whatever the first one answers. -/
theorem bind_iff_and {P : Prop} (hf : ∀ a, x = .ok a → (Returns (f a) ↔ P)) :
    Returns (x >>= f) ↔ Returns x ∧ P := by
  rw [bind_iff]
  constructor
  · rintro ⟨a, ha, hb⟩
    exact ⟨⟨a, ha⟩, (hf a ha).1 hb⟩
  · rintro ⟨⟨a, ha⟩, hP⟩
    exact ⟨a, ha, (hf a ha).2 hP⟩

theorem ite_bind_iff {c : Prop} [Decidable c] {y : Except ε β} {P Q : Prop}
    (hx : c → (Returns x ↔ P)) (hP : ¬ c → P) (hf : ∀ a, Returns (f a) ↔ Q)
    (hy : Returns y ↔ Q) : Returns (if c then x >>= f else y) ↔ P ∧ Q := by
  split
  · next hc => rw [bind_iff_and fun a _ => hf a, hx hc]
  · next hc => rw [hy, and_iff_right (hP hc)]

theorem map_iff (g : α → β) : Returns (x.map g) ↔ Returns x := by
  cases x <;> simp [Except.map]

theorem mapM_iff {l : List α} : Returns (l.mapM f) ↔ ∀ a ∈ l, Returns (f a) := by
  induction l with
  | nil => simp
  | cons a l ih =>
    rw [List.mapM_cons, bind_iff_and fun b _ => bind_iff_of_returns fun bs => pure (b :: bs), ih,
      List.forall_mem_cons]

theorem forM_iff {f : α → Except ε PUnit} {l : List α} :
    Returns (l.forM f) ↔ ∀ a ∈ l, Returns (f a) := by
  induction l with
  | nil => simp
  | cons a l ih => rw [List.forM, bind_iff_and fun _ _ => ih, List.forall_mem_cons]

end Returns

/-- The answer, if there is one, is such that `P` holds of it. -/
def Yields (x : Except ε α) (P : α → Prop) : Prop :=
  ∀ a, x = .ok a → P a

namespace Yields

variable {P : α → Prop} {Q : β → Prop}

theorem pure {a : α} (h : P a) : Yields (Pure.pure a : Except ε α) P := by
  rintro _ ⟨⟩
  exact h

theorem error {e : ε} : Yields (.error e : Except ε α) P :=
  nofun

theorem bind (h : ∀ a, x = .ok a → Yields (f a) Q) : Yields (x >>= f) Q := by
  cases hx : x with
  | error e => exact error
  | ok a => exact h a hx

end Yields

/-- The failure, if there is one, is such that `P` holds of it. -/
def FailsBy (x : Except ε α) (P : ε → Prop) : Prop :=
  ∀ e, x = .error e → P e

namespace FailsBy

variable {P : ε → Prop}

theorem ok {a : α} : FailsBy (.ok a : Except ε α) P :=
  nofun

theorem error {e : ε} (h : P e) : FailsBy (.error e : Except ε α) P := by
  rintro _ ⟨⟩
  exact h

theorem bind (h : FailsBy x P) (hf : ∀ a, FailsBy (f a) P) : FailsBy (x >>= f) P := by
  cases x with
  | error e => exact error (h e rfl)
  | ok a => exact hf a

theorem map (h : FailsBy x P) (g : α → β) : FailsBy (g <$> x) P := by
  cases x with
  | error e => exact error (h e rfl)
  | ok a => exact ok

end FailsBy

theorem liftM_eq_ok {x : Except Defect α} {a : α} :
    (liftM x : Except (Fault ε) α) = .ok a ↔ x = .ok a := by
  cases x <;> simp

end

/-! ## Refusals -/

section
variable {α β : Type} {P Q : Prop}

/-- The operation refuses a value of a wrong kind iff `P` holds, and has an answer otherwise. -/
def Refuses (x : Except Defect α) (P : Prop) : Prop :=
  (P → x = .error .wrongKind) ∧ (¬ P → ∃ a, x = .ok a)

namespace Refuses

variable {x : Except Defect α} {f : α → Except Defect β}

theorem pure (a : α) : Refuses (Pure.pure a : Except Defect α) False :=
  ⟨False.elim, fun _ => ⟨a, rfl⟩⟩

theorem of_iff (h : Refuses x P) (hPQ : P ↔ Q) : Refuses x Q :=
  propext hPQ ▸ h

theorem eq_of_error (h : Refuses x P) {d : Defect} (hd : x = .error d) : d = .wrongKind ∧ P := by
  by_cases hP : P
  · exact ⟨Except.error.inj (hd.symm.trans (h.1 hP)), hP⟩
  · obtain ⟨a, ha⟩ := h.2 hP
    cases hd.symm.trans ha

theorem returns_iff (h : Refuses x P) : Returns x ↔ ¬ P := by
  refine ⟨fun ⟨a, ha⟩ hP => ?_, h.2⟩
  cases (h.1 hP).symm.trans ha

theorem bind (h : Refuses x P) (hf : ∀ a, x = .ok a → Refuses (f a) Q) :
    Refuses (x >>= f) (P ∨ Q) := by
  by_cases hP : P
  · rw [h.1 hP]
    exact ⟨fun _ => rfl, fun hn => absurd (.inl hP) hn⟩
  · obtain ⟨a, rfl⟩ := h.2 hP
    exact (hf a rfl).of_iff (by simp [hP])

theorem map (h : Refuses x P) (g : α → β) : Refuses (x.map g) P := by
  constructor
  · intro hP
    rw [h.1 hP]
    rfl
  · intro hP
    obtain ⟨a, rfl⟩ := h.2 hP
    exact ⟨g a, rfl⟩

/-- **An operation is refused on a list iff it is refused on an element.** -/
theorem mapM {f : α → Except Defect β} {P : α → Prop} {l : List α}
    (h : ∀ a ∈ l, Refuses (f a) (P a)) : Refuses (l.mapM f) (∃ a ∈ l, P a) := by
  induction l with
  | nil => exact (pure _).of_iff (by simp)
  | cons a l ih =>
    obtain ⟨ha, hl⟩ := List.forall_mem_cons.1 h
    rw [List.mapM_cons]
    refine (ha.bind fun b _ => (ih hl).bind fun bs _ => pure (b :: bs)).of_iff ?_
    simp

end Refuses

end

end ContractAudit
