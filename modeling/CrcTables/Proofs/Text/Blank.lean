import CrcTables.Text.Blank
import Mathlib.Data.List.TakeWhile

/-!
# Trimming finds what stands between blanks

Trimming takes away all blanks at the two ends of a text and nothing else, and the last word of a
text is what follows its last blank, so text that is put between blanks can be got back.

## What is here

* `Text.trim_append_left`, `Text.trim_append_right` — blanks at the ends are taken away.
* `Text.trim_eq_self`, `Text.trim_word` — nothing else is.
* `Text.mem_trim_of_mem`, `Text.mem_of_mem_trim` — no character but a blank is ever lost, and none
  is added.
* `Text.exists_eq_append_trim` — what trimming takes away stood at the two ends.
* `Text.lastWord_append_cons` — a word behind a blank is the last word.
-/

set_option autoImplicit false
namespace CrcTables
namespace Text

/-! ## One end -/

theorem isBlank_of_mem_nil : ∀ c ∈ ([] : List Char), isBlank c = true := List.forall_mem_nil _

theorem isBlank_of_mem_blank : ∀ c ∈ [' '], isBlank c = true := List.forall_mem_singleton.2 rfl

theorem trimStart_append_of_blank {a : List Char} (ha : ∀ c ∈ a, isBlank c = true)
    (s : List Char) : trimStart (a ++ s) = trimStart s :=
  List.dropWhile_append_of_pos ha

/-- A blank at the end is left there or is taken away with all the others. -/
theorem trimStart_concat_eq_or {c : Char} (hc : isBlank c = true) (s : List Char) :
    trimStart (s ++ [c]) = trimStart s ++ [c] ∨ trimStart (s ++ [c]) = trimStart s := by
  rw [trimStart, trimStart, List.dropWhile_append]
  split
  · next hs =>
    rw [List.isEmpty_iff] at hs
    exact .inr (by rw [hs, List.dropWhile_cons_of_pos hc, List.dropWhile_nil])
  · exact .inl rfl

theorem trimStart_eq_self {s : List Char} (h : ∀ c ∈ s.head?, isBlank c = false) :
    trimStart s = s := by
  cases s with
  | nil => rfl
  | cons c s => exact List.dropWhile_cons_of_neg (by simp [h c rfl])

section dropEndWhile

variable {p : Char → Bool}

theorem dropEndWhile_append_of_pos {b : List Char} (hb : ∀ c ∈ b, p c = true) (s : List Char) :
    dropEndWhile p (s ++ b) = dropEndWhile p s := by
  rw [dropEndWhile, List.reverse_append, List.dropWhile_append_of_pos (by simpa using hb),
    dropEndWhile]

theorem dropEndWhile_eq_self {s : List Char} (h : ∀ c ∈ s.getLast?, p c = false) :
    dropEndWhile p s = s := by
  rw [← List.head?_reverse] at h
  rw [dropEndWhile]
  cases hs : s.reverse with
  | nil => simpa using hs
  | cons c rest =>
    rw [List.dropWhile_cons_of_neg (by simp [h c (by rw [hs]; rfl)]), ← hs, List.reverse_reverse]

end dropEndWhile

/-! ## Both ends -/

/-- Blanks in front are taken away. -/
theorem trim_append_left {a : List Char} (ha : ∀ c ∈ a, isBlank c = true) (s : List Char) :
    trim (a ++ s) = trim s := by
  rw [trim, trim, trimStart_append_of_blank ha]

/-- Blanks at the end are taken away. -/
theorem trim_append_right {b : List Char} (hb : ∀ c ∈ b, isBlank c = true) (s : List Char) :
    trim (s ++ b) = trim s := by
  rw [trim, trim, trimStart, trimStart, List.dropWhile_append]
  split
  · next hs =>
    rw [List.isEmpty_iff] at hs
    rw [hs, List.dropWhile_eq_nil_iff.2 hb]
  · exact dropEndWhile_append_of_pos hb (s.dropWhile isBlank)

/-- A text that starts and ends with something else stays as it is. -/
theorem trim_eq_self {s : List Char} (hhead : ∀ c ∈ s.head?, isBlank c = false)
    (hlast : ∀ c ∈ s.getLast?, isBlank c = false) : trim s = s := by
  rw [trim, trimStart_eq_self hhead]
  exact dropEndWhile_eq_self hlast

/-- A word stays as it is. -/
theorem trim_word {w : List Char} (hw : ∀ c ∈ w, isBlank c = false) : trim w = w :=
  trim_eq_self (fun c hc ↦ hw c (List.mem_of_mem_head? hc))
    fun c hc ↦ hw c (List.mem_of_getLast? hc)

theorem mem_dropWhile_of_mem {p : Char → Bool} {c : Char} {s : List Char} (hc : c ∈ s)
    (h : p c = false) : c ∈ s.dropWhile p := by
  rw [← List.takeWhile_append_dropWhile (p := p) (l := s), List.mem_append] at hc
  rcases hc with hc | hc
  · rw [List.mem_takeWhile_imp hc] at h
    contradiction
  · exact hc

/-- Trimming loses nothing but blanks. -/
theorem mem_trim_of_mem {c : Char} {s : List Char} (hc : c ∈ s) (h : isBlank c = false) :
    c ∈ trim s := by
  have hstart : c ∈ (trimStart s).reverse := List.mem_reverse.2 (mem_dropWhile_of_mem hc h)
  exact List.mem_reverse.2 (mem_dropWhile_of_mem hstart h)

/-- Trimming adds nothing. -/
theorem mem_of_mem_trim {c : Char} {s : List Char} (h : c ∈ trim s) : c ∈ s := by
  have hstart : c ∈ (trimStart s).reverse :=
    (List.dropWhile_suffix isBlank).mem (List.mem_reverse.1 h)
  exact (List.dropWhile_suffix isBlank).mem (List.mem_reverse.1 hstart)

/-- **A text is what trimming leaves, between blanks.** -/
theorem exists_eq_append_trim (s : List Char) :
    ∃ a b : List Char, (∀ c ∈ a, isBlank c = true) ∧ (∀ c ∈ b, isBlank c = true) ∧
      s = a ++ (trim s ++ b) := by
  have hstart : s.takeWhile isBlank ++ trimStart s = s := List.takeWhile_append_dropWhile
  have hend : trim s ++ ((trimStart s).reverse.takeWhile isBlank).reverse = trimStart s := by
    rw [trim, trimEnd, dropEndWhile, ← List.reverse_append, List.takeWhile_append_dropWhile,
      List.reverse_reverse]
  refine ⟨s.takeWhile isBlank, _, fun c hc ↦ List.mem_takeWhile_imp hc, fun c hc ↦ ?_,
    (hend.symm ▸ hstart).symm⟩
  exact List.mem_takeWhile_imp (List.mem_reverse.1 hc)

/-! ## Words -/

/-- **A word behind a blank is the last word.** -/
theorem lastWord_append_cons (a : List Char) {b : Char} {w : List Char} (hb : isBlank b = true)
    (hw : ∀ c ∈ w, isBlank c = false) (hne : w ≠ []) : lastWord (a ++ b :: w) = w := by
  have hlast : (a ++ b :: w).getLast? = w.getLast? := by
    rw [List.getLast?_append, List.getLast?_cons_of_ne_nil hne,
      List.getLast?_eq_some_getLast hne, Option.some_or]
  have hself : trimEnd (a ++ b :: w) = a ++ b :: w :=
    dropEndWhile_eq_self fun c hc ↦ hw c (List.mem_of_getLast? (hlast ▸ hc))
  have hrev : (a ++ b :: w).reverse = w.reverse ++ b :: a.reverse := by simp
  have hall : ∀ c ∈ w.reverse, (!isBlank c) = true := by simpa using hw
  rw [lastWord, hself, hrev, List.takeWhile_append_of_pos hall,
    List.takeWhile_cons_of_neg (by simp [hb]), List.append_nil, List.reverse_reverse]

end Text
end CrcTables
