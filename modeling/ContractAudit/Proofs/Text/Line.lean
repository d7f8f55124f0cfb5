/-
  The lines of texts that are put together.

  * `length_lines`: a text has one line more than it has line feeds, so one without a line feed is a
    line (`lines_of_notMem`);
  * `lines_joined`: texts that are joined by line feeds have the lines of the first one, then those
    of the next one, and so on;
  * `getElem?_lines_joined`: one that comes after texts without line feeds is a line at its place.
-/
import Mathlib.Data.List.Basic
import ContractAudit.Text.Line

namespace ContractAudit.Text

theorem notMem_append {c : Char} {s t : String} (hs : c ∉ s.toList) (ht : c ∉ t.toList) :
    c ∉ (s ++ t).toList := by
  rw [String.toList_append, List.mem_append, not_or]
  exact ⟨hs, ht⟩

theorem lines_of_notMem {s : List Char} (h : '\n' ∉ s) : lines s = [s] :=
  List.splitOn_eq_singleton h

/-- **A text has one line more than it has line feeds.** -/
theorem length_lines (s : List Char) : (lines s).length = s.count '\n' + 1 := by
  induction s with
  | nil => rfl
  | cons c s ih =>
    rw [lines] at ih ⊢
    rw [List.splitOn_cons_eq_if_modifyHead]
    by_cases hc : c = '\n'
    · subst hc
      rw [if_pos (beq_self_eq_true _), List.length_cons, ih, List.count_cons_self]
    · rw [if_neg (by simpa using hc), List.length_modifyHead, ih, List.count_cons_of_ne hc]

theorem suffix_intercalate (separator : List Char) (ls : List (List Char)) (l : List Char) :
    l <:+ separator.intercalate (ls ++ [l]) := by
  induction ls with
  | nil => exact ⟨[], by rw [List.nil_append, List.nil_append, List.intercalate_singleton]⟩
  | cons first ls ih =>
    have hne : ls ++ [l] ≠ [] := List.append_ne_nil_of_right_ne_nil ls (List.cons_ne_nil l [])
    rw [List.cons_append, List.intercalate_cons_of_ne_nil hne]
    exact ih.trans (List.suffix_append _ _)

/-- Lines that are put together are the same lines again, where those with line feeds fall apart. -/
theorem lines_intercalate : ∀ {ls : List (List Char)}, ls ≠ [] →
    lines (['\n'].intercalate ls) = ls.flatMap lines
  | [l], _ => by rw [List.intercalate_singleton, List.flatMap_singleton]
  | l :: m :: ls, _ => by
    have ih : lines (['\n'].intercalate (m :: ls)) = (m :: ls).flatMap lines :=
      lines_intercalate (List.cons_ne_nil m ls)
    rw [List.intercalate_cons_cons, List.append_assoc, List.singleton_append, lines,
      List.splitOn_append_cons_self, ← lines, ← lines, ih, ← List.flatMap_cons]

/-- **Texts that are joined by line feeds have the lines of each of them, in order.** -/
theorem lines_joined {ss : List String} (h : ss ≠ []) :
    lines (joined "\n" ss).toList = ss.flatMap fun s => lines s.toList := by
  have hmap : ss.map String.toList ≠ [] := mt List.map_eq_nil_iff.1 h
  rw [joined, String.toList_intercalate, ← List.flatMap_map]
  exact lines_intercalate hmap

theorem getElem?_lines_joined {before after : List String} {s : String}
    (hbefore : ∀ t ∈ before, '\n' ∉ t.toList) (h : '\n' ∉ s.toList) :
    (lines (joined "\n" (before ++ s :: after)).toList)[before.length]? = some s.toList := by
  have hne : before ++ s :: after ≠ [] :=
    List.append_ne_nil_of_right_ne_nil before (List.cons_ne_nil s after)
  have hlines : (before.flatMap fun t => lines t.toList) = before.map String.toList := by
    rw [List.map_eq_flatMap]
    exact List.flatMap_congr fun t ht => lines_of_notMem (hbefore t ht)
  have hlength : (before.map String.toList).length = before.length := List.length_map _
  rw [lines_joined hne, List.flatMap_append, hlines, List.flatMap_cons, lines_of_notMem h,
    ← hlength, List.getElem?_append_right (Nat.le_refl _), Nat.sub_self]
  rfl

end ContractAudit.Text
