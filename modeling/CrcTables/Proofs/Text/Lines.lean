import CrcTables.Text.Lines

/-!
# Lines survive being put together

A text that is put together from lines has these lines again, as long as none of them could be
mistaken for more or less than a line.

## What is here

* `Text.IsLine` — a text that can stand on a line: no line feed in it, no carriage return at its
  end.
* `Text.lines_append_cons`, `Text.lines_induction` — the lines of a text one by one.
* `Text.lines_unlines_append`, `Text.lines_unlines` — lines that are put together are found again.
-/

set_option autoImplicit false
namespace CrcTables
namespace Text

/-- A text that can stand on a line. -/
structure IsLine (l : List Char) : Prop where
  /-- The line does not end before its end. -/
  feed : '\n' ∉ l
  /-- Nothing of it is taken for a part of the ending. -/
  last : l.getLast? ≠ some '\r'

theorem IsLine.dropReturn_eq {l : List Char} (h : IsLine l) : dropReturn l = l :=
  if_neg h.last

theorem unlines_cons (l : List Char) (ls : List (List Char)) :
    unlines (l :: ls) = l ++ '\n' :: unlines ls := by
  rw [unlines, List.flatMap_cons, List.append_assoc]
  rfl

/-! ## Line by line -/

/-- **The first line** of a text ends at its first line feed. -/
theorem lines_append_cons {l : List Char} (h : '\n' ∉ l) (s : List Char) :
    lines (l ++ '\n' :: s) = dropReturn l :: lines s := by
  have hne : s.splitOn '\n' ≠ [] := List.splitOn_ne_nil '\n' s
  simp only [lines, List.splitOn_append_cons_self_of_not_mem h,
    List.dropLast_cons_of_ne_nil hne, List.getLast?_cons_of_ne_nil hne, List.map_cons,
    List.cons_append]

/-- What has no line feed in it is one line, to its end. -/
theorem lines_of_not_mem {l : List Char} (h : '\n' ∉ l) (hne : l ≠ []) : lines l = [l] := by
  simp [lines, List.splitOn_eq_singleton h, hne]

/-- A text that holds something has a line. -/
theorem lines_ne_nil {s : List Char} (h : s ≠ []) : lines s ≠ [] := by
  by_cases hfeed : '\n' ∈ s
  · obtain ⟨l, rest, rfl, hl⟩ := List.eq_append_cons_of_mem hfeed
    rw [lines_append_cons hl]
    exact List.cons_ne_nil _ _
  · rw [lines_of_not_mem hfeed h]
    exact List.cons_ne_nil _ _

/-- **Induction on the lines of a text**: what holds of a text without a line feed, and of a text
with one more line in front, holds of all texts. -/
theorem lines_induction {P : List Char → Prop} (last : ∀ l, '\n' ∉ l → P l)
    (cons : ∀ l s, '\n' ∉ l → P s → P (l ++ '\n' :: s)) (s : List Char) : P s := by
  induction hlength : s.length using Nat.strongRecOn generalizing s with
  | ind n ih =>
    subst hlength
    by_cases hfeed : '\n' ∈ s
    · obtain ⟨l, rest, rfl, hl⟩ := List.eq_append_cons_of_mem hfeed
      exact cons l rest hl (ih rest.length (by simp; omega) rest rfl)
    · exact last s hfeed

/-- A carriage return is dropped only if something else than a carriage return stands before what
is looked at. -/
theorem dropReturn_append_cons (a : List Char) {c : Char} (hc : c ≠ '\r') (s : List Char) :
    dropReturn (a ++ c :: s) = a ++ c :: dropReturn s := by
  cases s with
  | nil => simp [dropReturn, hc]
  | cons d s =>
    have hlast : (a ++ c :: d :: s).getLast? = (d :: s).getLast? := by
      simp [List.getLast?_append, List.getLast?_cons]
    rw [dropReturn, dropReturn, hlast]
    split
    · simp
    · rfl

/-- Nothing but a carriage return is dropped. -/
theorem dropReturn_eq_or (s : List Char) : dropReturn s = s ∨ s = dropReturn s ++ ['\r'] := by
  rw [dropReturn]
  split
  · next h =>
    obtain ⟨front, rfl⟩ := List.getLast?_eq_some_iff.1 h
    exact .inr (by rw [List.dropLast_concat])
  · exact .inl rfl

/-! ## Lines that are put together -/

/-- Lines that are put together are found again, in front of those of what follows, but for carriage
returns at their ends. -/
theorem lines_unlines_append_of_feed {ls : List (List Char)} (h : ∀ l ∈ ls, '\n' ∉ l)
    (s : List Char) : lines (unlines ls ++ s) = ls.map dropReturn ++ lines s := by
  induction ls with
  | nil => rfl
  | cons l ls ih =>
    rw [List.forall_mem_cons] at h
    rw [unlines_cons, List.append_assoc, List.cons_append, lines_append_cons h.1, ih h.2,
      List.map_cons, List.cons_append]

/-- **Lines that are put together are found again**, in front of those of what follows. -/
theorem lines_unlines_append {ls : List (List Char)} (h : ∀ l ∈ ls, IsLine l) (s : List Char) :
    lines (unlines ls ++ s) = ls ++ lines s := by
  have hself : ls.map dropReturn = ls :=
    (List.map_congr_left fun l hl ↦ (h l hl).dropReturn_eq).trans ls.map_id'
  rw [lines_unlines_append_of_feed (fun l hl ↦ (h l hl).feed), hself]

/-- **Lines that are put together are found again.** -/
theorem lines_unlines {ls : List (List Char)} (h : ∀ l ∈ ls, IsLine l) :
    lines (unlines ls) = ls := by
  simpa [lines_nil] using lines_unlines_append h []

end Text
end CrcTables
