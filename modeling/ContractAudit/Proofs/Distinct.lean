/-
  The first of the elements that share a key.

  `l.eraseDupsBy fun a b => key a == key b` leaves out of `l` every element whose key an earlier
  element has.

  * `eraseDupsBy_concat`: one more element at the end is kept iff its key is new, which is how a
    loop that runs over a list sees it;
  * `mem_map_eraseDupsBy` and `nodup_map_eraseDupsBy`: each key of the list remains, once, and what
    remains was there (`mem_of_mem_eraseDupsBy`);
  * `eraseDupsBy_append`: elements at the end whose keys are there already leave no trace;
  * `perm_map_eraseDupsBy` and `countP_eraseDupsBy`: the keys that remain, and how many elements
    with a property that the keys determine, are those of the set of keys;
  * `map_eraseDupsBy`: a map that tells keys apart may come before or after, so two maps that tell
    the same elements apart have equally many values (`length_eraseDups_map`);
  * `forall₂_eraseDupsBy`: lists that are related element by element keep related elements;
  * `eraseDupsBy_filter`: what remains of the elements with some property, told by positions.
-/
import Mathlib.Data.List.Induction
import Mathlib.Data.List.Perm.Subperm
import ContractAudit.Keyed

namespace ContractAudit

section
variable {α κ : Type} [BEq κ] [LawfulBEq κ] (key : α → κ)

/-- An element at the end is kept iff its key is new. -/
theorem eraseDupsBy_concat (a : α) : ∀ l : List α,
    (l ++ [a]).eraseDupsBy (fun x y => key x == key y) =
      if key a ∈ l.map key then l.eraseDupsBy (fun x y => key x == key y)
      else l.eraseDupsBy (fun x y => key x == key y) ++ [a]
  | [] => by simp [List.eraseDupsBy_cons]
  | b :: l => by
    rw [List.cons_append, List.eraseDupsBy_cons, List.filter_append, List.eraseDupsBy_cons]
    by_cases hb : key a = key b
    · simp [hb]
    · have hmem : key a ∈ (l.filter fun x => (key x == key b) = false).map key ↔
          key a ∈ (b :: l).map key := by
        simp only [List.mem_map, List.mem_filter, List.mem_cons]
        constructor
        · rintro ⟨x, ⟨hx, -⟩, he⟩; exact ⟨x, Or.inr hx, he⟩
        · rintro ⟨x, rfl | hx, he⟩
          · exact absurd he.symm hb
          · exact ⟨x, ⟨hx, by simp [he, hb]⟩, he⟩
      have ha : ([a].filter fun x => decide ((key x == key b) = false)) = [a] := by simp [hb]
      rw [ha, eraseDupsBy_concat a (l.filter fun x => (key x == key b) = false)]
      by_cases h : key a ∈ (b :: l).map key
      · rw [if_pos (hmem.2 h), if_pos h]
      · rw [if_neg (mt hmem.1 h), if_neg h, List.cons_append]
termination_by l => l.length
decreasing_by exact Nat.lt_succ_of_le (List.length_filter_le _ _)

theorem mem_map_eraseDupsBy (l : List α) (k : κ) :
    k ∈ (l.eraseDupsBy fun x y => key x == key y).map key ↔ k ∈ l.map key := by
  induction l using List.reverseRecOn with
  | nil => simp
  | append_singleton l a ih =>
    rw [eraseDupsBy_concat]
    split
    · rename_i h
      rw [ih, List.map_append, List.mem_append]
      constructor
      · exact Or.inl
      · rintro (hk | hk)
        · exact hk
        · rw [List.map_singleton, List.mem_singleton] at hk; rwa [hk]
    · simp [ih]

theorem mem_of_mem_eraseDupsBy {l : List α} {a : α}
    (h : a ∈ l.eraseDupsBy fun x y => key x == key y) : a ∈ l := by
  induction l using List.reverseRecOn with
  | nil => simp at h
  | append_singleton l b ih =>
    rw [eraseDupsBy_concat] at h
    split at h
    · exact List.mem_append_left _ (ih h)
    · rcases List.mem_append.1 h with h | h
      · exact List.mem_append_left _ (ih h)
      · exact List.mem_append_right _ h

/-- No two elements that remain share a key. -/
theorem nodup_map_eraseDupsBy (l : List α) :
    ((l.eraseDupsBy fun x y => key x == key y).map key).Nodup := by
  induction l using List.reverseRecOn with
  | nil => simp
  | append_singleton l a ih =>
    rw [eraseDupsBy_concat]
    split
    · exact ih
    · rename_i h
      rw [List.map_append, List.nodup_append]
      refine ⟨ih, by simp, fun k hk k' hk' => ?_⟩
      rw [List.map_singleton, List.mem_singleton] at hk'
      rw [mem_map_eraseDupsBy] at hk
      rintro rfl
      exact h (hk' ▸ hk)

theorem eraseDupsBy_append (l : List α) {m : List α} (h : ∀ a ∈ m, key a ∈ l.map key) :
    (l ++ m).eraseDupsBy (fun x y => key x == key y) =
      l.eraseDupsBy fun x y => key x == key y := by
  induction m using List.reverseRecOn with
  | nil => rw [List.append_nil]
  | append_singleton m a ih =>
    have ha : key a ∈ (l ++ m).map key := by
      rw [List.map_append]
      exact List.mem_append_left _ (h a (by simp))
    rw [← List.append_assoc, eraseDupsBy_concat, if_pos ha]
    exact ih fun b hb => h b (List.mem_append_left _ hb)

theorem perm_map_eraseDupsBy {l m : List α} (h : ∀ k, k ∈ l.map key ↔ k ∈ m.map key) :
    ((l.eraseDupsBy fun x y => key x == key y).map key).Perm
      ((m.eraseDupsBy fun x y => key x == key y).map key) := by
  rw [List.perm_ext_iff_of_nodup (nodup_map_eraseDupsBy key l) (nodup_map_eraseDupsBy key m)]
  intro k
  rw [mem_map_eraseDupsBy, mem_map_eraseDupsBy, h]

/-- How many elements with `p` remain is a matter of the set of keys, if keys determine `p`. -/
theorem countP_eraseDupsBy {p : α → Bool} (hp : ∀ a b, key a = key b → p a = p b) {l m : List α}
    (h : ∀ k, k ∈ l.map key ↔ k ∈ m.map key) :
    (l.eraseDupsBy fun x y => key x == key y).countP p =
      (m.eraseDupsBy fun x y => key x == key y).countP p := by
  classical
  -- `p`, as a property of keys
  let q : κ → Bool := fun k => decide (∃ a, key a = k ∧ p a = true)
  have hq : p = q ∘ key := by
    funext a
    rw [Bool.eq_iff_iff, Function.comp_apply, decide_eq_true_eq]
    exact ⟨fun ha => ⟨a, rfl, ha⟩, fun ⟨b, hb, hpb⟩ => hp b a hb ▸ hpb⟩
  rw [hq, ← List.countP_map, ← List.countP_map]
  exact (perm_map_eraseDupsBy key h).countP_eq q

theorem map_eraseDupsBy {β μ : Type} [BEq μ] [LawfulBEq μ] (f : α → β) (other : β → μ)
    (h : ∀ a b, other (f a) = other (f b) ↔ key a = key b) (l : List α) :
    (l.eraseDupsBy fun x y => key x == key y).map f =
      (l.map f).eraseDupsBy fun x y => other x == other y := by
  induction l using List.reverseRecOn with
  | nil => rfl
  | append_singleton l a ih =>
    have hmem : other (f a) ∈ (l.map f).map other ↔ key a ∈ l.map key := by
      simp only [List.map_map, List.mem_map, Function.comp_apply, h]
    rw [List.map_append, List.map_singleton, eraseDupsBy_concat, eraseDupsBy_concat, ← ih]
    by_cases ha : key a ∈ l.map key
    · rw [if_pos ha, if_pos (hmem.2 ha)]
    · rw [if_neg ha, if_neg (mt hmem.1 ha), List.map_append, List.map_singleton]

/-- Lists of related elements, with the same keys, keep related elements. -/
theorem forall₂_eraseDupsBy {β : Type} {R : α → β → Prop} {other : β → κ}
    (hkey : ∀ a b, R a b → key a = other b) : ∀ {l : List α} {m : List β}, List.Forall₂ R l m →
      List.Forall₂ R (l.eraseDupsBy fun x y => key x == key y)
        (m.eraseDupsBy fun x y => other x == other y)
  | _, _, .nil => by simp
  | a :: l, b :: m, .cons hab h => by
    have hrest : List.Forall₂ R (l.filter fun x => (key x == key a) = false)
        (m.filter fun y => (other y == other b) = false) :=
      List.rel_filter (fun x y hxy => by simp [hkey x y hxy, hkey a b hab]) h
    rw [List.eraseDupsBy_cons, List.eraseDupsBy_cons]
    exact .cons hab (forall₂_eraseDupsBy hkey hrest)
termination_by l => l.length
decreasing_by exact Nat.lt_succ_of_le (List.length_filter_le _ _)

/-- Of the elements with `p`, those remain that share their key with no earlier one of them. -/
theorem eraseDupsBy_filter (p : α → Bool) (l : List α) :
    (l.filter p).eraseDupsBy (fun x y => key x == key y) =
      (l.zipIdx.filter fun (x, i) => p x && !(l.take i).any fun y => p y && key y == key x).map
        (·.1) := by
  induction l using List.reverseRecOn with
  | nil => rfl
  | append_singleton l a ih =>
    -- the earlier elements of an element of `l` are the same in `l ++ [a]`
    have hearlier : (l.zipIdx.filter fun (x, i) =>
        p x && !((l ++ [a]).take i).any fun y => p y && key y == key x) =
        l.zipIdx.filter fun (x, i) => p x && !(l.take i).any fun y => p y && key y == key x := by
      refine List.filter_congr fun x hx => ?_
      have hi : x.2 ≤ l.length := Nat.le_of_lt (List.snd_lt_of_mem_zipIdx hx)
      simp only [List.take_append_of_le_length hi]
    have hlast : (l.any fun y => p y && key y == key a) =
        decide (key a ∈ (l.filter p).map key) := by
      rw [Bool.eq_iff_iff]
      simp only [List.any_eq_true, Bool.and_eq_true, beq_iff_eq, decide_eq_true_eq, List.mem_map,
        List.mem_filter, and_assoc]
    rw [List.zipIdx_append, List.filter_append, List.filter_append, List.map_append, hearlier, ← ih]
    by_cases ha : p a = true
    · have hfilter : [a].filter p = [a] := by simp [ha]
      rw [hfilter, eraseDupsBy_concat]
      by_cases hk : key a ∈ (l.filter p).map key
      · simp [hk, hlast]
      · simp [hk, hlast, ha]
    · simp [ha]

end

section
variable {α : Type} [BEq α] [LawfulBEq α]

theorem eraseDups_concat (l : List α) (a : α) :
    (l ++ [a]).eraseDups = if a ∈ l then l.eraseDups else l.eraseDups ++ [a] := by
  have h := eraseDupsBy_concat (fun x : α => x) a l
  rwa [List.map_id'] at h

theorem nodup_eraseDups (l : List α) : l.eraseDups.Nodup := by
  have h := nodup_map_eraseDupsBy (fun x : α => x) l
  rwa [List.map_id'] at h

theorem eraseDups_append (l : List α) {m : List α} (h : ∀ a ∈ m, a ∈ l) :
    (l ++ m).eraseDups = l.eraseDups := by
  refine eraseDupsBy_append (fun x : α => x) l ?_
  rwa [List.map_id']

theorem length_eraseDups_le {l m : List α} (h : l ⊆ m) :
    l.eraseDups.length ≤ m.eraseDups.length := by
  refine ((nodup_eraseDups l).subperm fun a ha => ?_).length_le
  exact List.mem_eraseDups.2 (h (List.mem_eraseDups.1 ha))

end

theorem length_eraseDups_map {α β γ : Type} [BEq β] [LawfulBEq β] [BEq γ] [LawfulBEq γ]
    {f : α → β} {g : α → γ} (h : ∀ a b, f a = f b ↔ g a = g b) (l : List α) :
    (l.map f).eraseDups.length = (l.map g).eraseDups.length := by
  have hf := map_eraseDupsBy g f (fun b : β => b) h l
  have hg := map_eraseDupsBy g g (fun c : γ => c) (fun _ _ => Iff.rfl) l
  rw [List.eraseDups, List.eraseDups, ← hf, ← hg, List.length_map, List.length_map]

end ContractAudit
