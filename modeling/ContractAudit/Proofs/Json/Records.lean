/-
  Records of plain values are determined by their text.

  * A plain value (`isPlain`) is null, an integer or a text, and ends before a comma or a brace
    (`chars_append_inj`);
  * `write_record_inj`: two records on one line with the same keys and the same text are equal.
-/
import ContractAudit.Proofs.Json.Strings

namespace ContractAudit.Json

/-- A value without parts and without a fraction. -/
def isPlain : Json → Bool
  | null | int _ | str _ => true
  | _ => false

section
variable {l : Layout}

theorem chars_head {v : Json} (hv : v.isPlain = true) (depth : Nat) :
    ∃ c cs, l.chars depth v = c :: cs ∧
      (v = null ∧ c = 'n' ∨ (∃ s, v = str s) ∧ c = '"' ∨ (∃ n, v = int n) ∧ isNumeralChar c) := by
  cases v with
  | null => exact ⟨_, _, rfl, Or.inl ⟨rfl, rfl⟩⟩
  | str s => exact ⟨_, _, rfl, Or.inr (Or.inl ⟨⟨s, rfl⟩, rfl⟩)⟩
  | int n =>
    obtain ⟨c, cs, hc⟩ := List.exists_cons_of_ne_nil (showInt_ne_nil n)
    refine ⟨c, cs, hc, Or.inr (Or.inr ⟨⟨n, rfl⟩, isNumeralChar_of_mem_showInt (n := n) ?_⟩)⟩
    rw [hc]; exact List.mem_cons_self
  | bool | float | arr | obj => cases hv

theorem memberChars_cons_cons (depth : Nat) (k : String) (v : Json) (m : String × Json)
    (ms : Members) (rest : List Char) :
    [','].intercalate (l.memberChars depth ((k, v) :: m :: ms)) ++ rest =
      writeString l.asciiOnly k ++ l.colon.toList ++ l.chars depth v ++
        ',' :: ([','].intercalate (l.memberChars depth (m :: ms)) ++ rest) := by
  simp [Layout.memberChars, List.intercalate_cons_cons]

variable (hl : l.asciiOnly = false)
include hl

/-- A text begins with at most one plain value that ends where no digit follows. -/
theorem chars_append_inj {v w : Json} (hv : v.isPlain = true) (hw : w.isPlain = true)
    {c d : Char} (hc : isNumeralChar c = false) (hd : isNumeralChar d = false) {m n : Nat}
    {r r' : List Char} (h : l.chars m v ++ c :: r = l.chars n w ++ d :: r') :
    v = w ∧ c :: r = d :: r' := by
  obtain ⟨a, as, hva, hkind⟩ := chars_head hv m
  obtain ⟨b, bs, hwb, hkind'⟩ := chars_head hw n
  have hab : a = b := by
    rw [hva, hwb] at h; exact (List.cons.inj h).1
  rcases hkind with ⟨rfl, rfl⟩ | ⟨⟨s, rfl⟩, rfl⟩ | ⟨⟨i, rfl⟩, hi⟩ <;>
    rcases hkind' with ⟨rfl, rfl⟩ | ⟨⟨t, rfl⟩, rfl⟩ | ⟨⟨j, rfl⟩, hj⟩
  · exact ⟨rfl, List.append_cancel_left h⟩
  · exact absurd hab (by decide)
  · subst hab; exact absurd hj (by decide)
  · exact absurd hab (by decide)
  · simp only [Layout.chars, hl] at h
    obtain ⟨rfl, hr⟩ := writeString_append_inj h
    exact ⟨rfl, hr⟩
  · subst hab; exact absurd hj (by decide)
  · subst hab; exact absurd hi (by decide)
  · subst hab; exact absurd hi (by decide)
  · obtain ⟨rfl, hr⟩ := showInt_append_inj hc hd h
    exact ⟨rfl, hr⟩

theorem member_append_inj {key : String} {v w : Json} (hv : v.isPlain = true)
    (hw : w.isPlain = true) {c d : Char} (hc : isNumeralChar c = false)
    (hd : isNumeralChar d = false) {m n : Nat} {r r' : List Char}
    (h : writeString l.asciiOnly key ++ l.colon.toList ++ l.chars m v ++ c :: r =
      writeString l.asciiOnly key ++ l.colon.toList ++ l.chars n w ++ d :: r') :
    v = w ∧ c :: r = d :: r' := by
  rw [List.append_assoc, List.append_assoc _ (l.chars n w)] at h
  exact chars_append_inj hl hv hw hc hd (List.append_cancel_left h)

/-- Members of the same keys, with commas between them and a brace after them, are determined by
their text. -/
theorem memberChars_inj {depth : Nat} : ∀ {ms ns : Members}, Keyed.keys ms = Keyed.keys ns →
    (∀ m ∈ ms, m.2.isPlain = true) → (∀ n ∈ ns, n.2.isPlain = true) →
    [','].intercalate (l.memberChars depth ms) ++ ['\x7d'] =
      [','].intercalate (l.memberChars depth ns) ++ ['\x7d'] → ms = ns
  | [], [], _, _, _, _ => rfl
  | [(k, v)], [(k', w)], hk, hm, hn, h => by
    simp only [Keyed.keys, List.map_cons, List.cons.injEq] at hk
    obtain ⟨rfl, -⟩ := hk
    simp only [Layout.memberChars, List.intercalate_singleton] at h
    obtain ⟨rfl, -⟩ := member_append_inj hl (hm (k, v) List.mem_cons_self)
      (hn (k, w) List.mem_cons_self) rfl rfl h
    rfl
  | (k, v) :: m :: ms, (k', w) :: n :: ns, hk, hm, hn, h => by
    simp only [Keyed.keys, List.map_cons, List.cons.injEq] at hk
    obtain ⟨rfl, hk⟩ := hk
    -- after the first member comes a comma on both sides
    rw [memberChars_cons_cons, memberChars_cons_cons] at h
    obtain ⟨rfl, hrest⟩ := member_append_inj hl (hm (k, v) List.mem_cons_self)
      (hn (k, w) List.mem_cons_self) rfl rfl h
    have ih : m :: ms = n :: ns := memberChars_inj (by simpa [Keyed.keys] using hk)
      (fun x hx => hm x (List.mem_cons_of_mem _ hx)) (fun x hx => hn x (List.mem_cons_of_mem _ hx))
      (List.cons.inj hrest).2
    rw [ih]
  | [], _ :: _, hk, _, _, _ | _ :: _, [], hk, _, _, _ => by simp [Keyed.keys] at hk
  | [_], _ :: _ :: _, hk, _, _, _ | _ :: _ :: _, [_], hk, _, _, _ => by simp [Keyed.keys] at hk

end

/-- **Two records of plain values with the same keys and the same text are equal.** -/
theorem write_record_inj {ms ns : Members} (hk : Keyed.keys ms = Keyed.keys ns)
    (hm : ∀ m ∈ ms, m.2.isPlain = true) (hn : ∀ n ∈ ns, n.2.isPlain = true)
    (h : write compactLayout (.obj ms) = write compactLayout (.obj ns)) : ms = ns := by
  have hlen : ms.length = ns.length := by
    have := congrArg List.length hk; simpa [Keyed.keys] using this
  have hwrite : ∀ (m : String × Json) (l : Members),
      compactLayout.chars 0 (.obj (m :: l)) =
        '\x7b' :: ([','].intercalate (compactLayout.memberChars 1 (m :: l)) ++ ['\x7d']) := by
    rintro ⟨k, v⟩ l
    simp [Layout.chars, Layout.enclosed, Layout.lineBreak, Layout.memberChars, compactLayout]
  cases ms with
  | nil => exact (List.length_eq_zero_iff.1 hlen.symm).symm
  | cons m ms =>
    obtain ⟨n, ns, rfl⟩ := List.exists_cons_of_length_eq_add_one hlen.symm
    have h' := String.ofList_injective h
    rw [hwrite, hwrite] at h'
    exact memberChars_inj rfl hk hm hn (List.cons.inj h').2

end ContractAudit.Json
