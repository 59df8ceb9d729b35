import CrcTables.Listing.Literal
import CrcTables.Listing.Printer
import CrcTables.Proofs.Text.Digits
import CrcTables.Proofs.Text.Search
import Mathlib.Data.List.Forall2

/-!
# The literals of a text

A text *holds* some words if scanning it adds just these words, in order, to whatever was found
before.  A text can be cut at any character that neither goes on with a literal nor starts one, so
what a line holds is what its entries hold.

## What is here

* `Literal.Holds` — a text holds these words.
* `Literal.scanFrom_append_cons` — a scan can be interrupted at a separator.
* `Literal.Spells`, `Literal.holds_of_spells` — a mark, digits and a suffix hold one word; the
  literals that are printed are of this form (`Literal.spells_literal`).
* `Literal.holds_commaSeparated` — entries with commas between them hold their words.
* `Literal.mark`, `Literal.occurrences_commaSeparated` — they have as many marks as there are words.
-/

set_option autoImplicit false
namespace CrcTables

/-- Behind the first of several texts stand a comma and the others. -/
theorem commaSeparated_cons (text : List Char) {texts : List (List Char)} (h : texts ≠ []) :
    commaSeparated (text :: texts) = text ++ ([',', ' '] ++ commaSeparated texts) := by
  rw [commaSeparated, List.intercalate_cons_of_ne_nil h, List.append_assoc, ← commaSeparated]

namespace Literal

open Text

/-- The mark of a literal. -/
def mark : List Char := ['0', 'x']

theorem mark_ne_nil : mark ≠ [] := List.cons_ne_nil _ _

/-! ## Interrupting a scan -/

/-- A character that is no digit is not the zero of a mark. -/
theorem ne_zero_of_isHexDigit_eq_false {c : Char} (h : isHexDigit c = false) : c ≠ '0' := by
  rintro rfl
  contradiction

/-- No mark starts at such a character. -/
theorem scanFrom_none_cons {c : Char} (h : c ≠ '0') (s : List Char) (found : Array UInt64) :
    scanFrom none (c :: s) found = scanFrom none s found := by
  rw [scanFrom]
  rintro rest rfl
  contradiction

/-- A zero that is followed by something else than `x` is no mark. -/
theorem scanFrom_none_cons_cons {c d : Char} (h : d ≠ 'x') (s : List Char)
    (found : Array UInt64) :
    scanFrom none (c :: d :: s) found = scanFrom none (d :: s) found := by
  rw [scanFrom]
  intro rest _ heq
  exact h (List.cons.inj heq).1

/-- **A scan can be interrupted** at a character that neither goes on with a literal nor starts
one. -/
theorem scanFrom_append_cons {c : Char} (hdigit : isHexDigit c = false) (hx : c ≠ 'x')
    (run? : Option (List Char)) (a b : List Char) (found : Array UInt64) :
    scanFrom run? (a ++ c :: b) found = (scanFrom run? a found).bind (scanFrom none b) := by
  have hzero := ne_zero_of_isHexDigit_eq_false hdigit
  -- the recursion of the scan over the first part
  fun_induction scanFrom run? a found with
  | case1 found => exact scanFrom_none_cons hzero b found
  | case2 found rest ih =>
    rw [List.cons_append, List.cons_append, scanFrom]
    exact ih
  | case3 found d rest hmark ih =>
    cases rest with
    | nil => exact (scanFrom_none_cons_cons hx b found).trans ih
    | cons e rest =>
      rw [← ih, List.cons_append, scanFrom]
      rintro rest' rfl heq
      obtain ⟨rfl, -⟩ := List.cons.inj heq
      exact hmark rest rfl rfl
  | case4 found run =>
    rw [List.nil_append, scanFrom, if_neg (by simp [hdigit])]
    cases close run found <;> rfl
  | case5 found run d rest hd ih =>
    rw [List.cons_append, scanFrom, if_pos hd]
    exact ih
  | case6 found run d rest hd e hclose =>
    rw [List.cons_append, scanFrom, if_neg hd, hclose]
    rfl
  | case7 found run d rest hd found' hclose ih =>
    rw [List.cons_append, scanFrom, if_neg hd, hclose]
    exact ih

/-- Such a character at the end makes no difference. -/
theorem scan_concat {c : Char} (hdigit : isHexDigit c = false) (hx : c ≠ 'x') (s : List Char)
    (found : Array UInt64) : scan (s ++ [c]) found = scan s found := by
  rw [scan, scan, scanFrom_append_cons hdigit hx]
  cases scanFrom none s found <;> rfl

/-- Text without a zero is passed over. -/
theorem scanFrom_append_of_not_mem {a : List Char} (h : '0' ∉ a) (s : List Char)
    (found : Array UInt64) : scanFrom none (a ++ s) found = scanFrom none s found := by
  induction a with
  | nil => rfl
  | cons c a ih =>
    rw [List.mem_cons, not_or] at h
    rw [List.cons_append, scanFrom_none_cons (Ne.symm h.1), ih h.2]

/-- Digits that follow a mark are put aside. -/
theorem scanFrom_append_digits {digits : List Char} (h : ∀ c ∈ digits, isHexDigit c = true)
    (run s : List Char) (found : Array UInt64) :
    scanFrom (some run) (digits ++ s) found = scanFrom (some (digits.reverse ++ run)) s found := by
  induction digits generalizing run with
  | nil => rfl
  | cons c digits ih =>
    rw [List.cons_append, scanFrom, if_pos (h c List.mem_cons_self),
      ih (fun d hd ↦ h d (List.mem_cons_of_mem c hd)), List.reverse_cons, List.append_assoc]
    rfl

/-! ## What a text holds -/

/-- The literals of a text are these words. -/
def Holds (s : List Char) (ws : List UInt64) : Prop :=
  ∀ found, scan s found = .ok (found ++ ws.toArray)

section Holds

variable {a b : List Char} {us vs : List UInt64}

theorem holds_of_not_mem (h : '0' ∉ a) : Holds a [] := by
  intro found
  have hscan := scanFrom_append_of_not_mem h [] found
  rw [List.append_nil, scanFrom] at hscan
  rw [scan, hscan, Array.append_empty]

theorem Holds.eq_nil (h : Holds [] us) : us = [] := by
  simpa [scan, scanFrom] using h #[]

theorem Holds.append_left (h : Holds b vs) (ha : '0' ∉ a) : Holds (a ++ b) vs := by
  intro found
  rw [scan, scanFrom_append_of_not_mem ha]
  exact h found

/-- **Two texts with a separator between them** hold what they hold one after the other. -/
theorem Holds.append_cons {c : Char} (ha : Holds a us) (hb : Holds b vs)
    (hdigit : isHexDigit c = false) (hx : c ≠ 'x') : Holds (a ++ c :: b) (us ++ vs) := by
  intro found
  have hscan : scanFrom none a found = .ok (found ++ us.toArray) := ha found
  rw [scan, scanFrom_append_cons hdigit hx, hscan, Except.bind, ← List.append_toArray,
    ← Array.append_assoc]
  exact hb (found ++ us.toArray)

/-- What follows a text may start with the separator. -/
theorem Holds.append {a b : List Char} {us vs : List UInt64} (ha : Holds a us) (hb : Holds b vs)
    (hhead : ∀ c ∈ b.head?, isHexDigit c = false ∧ c ≠ 'x') : Holds (a ++ b) (us ++ vs) := by
  cases b with
  | nil => simpa [hb.eq_nil] using ha
  | cons c b =>
    obtain ⟨hdigit, hx⟩ := hhead c rfl
    have hzero := ne_zero_of_isHexDigit_eq_false hdigit
    have hrest : Holds b vs := fun found ↦ (scanFrom_none_cons hzero b found).symm.trans (hb found)
    exact ha.append_cons hrest hdigit hx

theorem Holds.concat_comma (ha : Holds a us) : Holds (a ++ [',']) us := by
  have h : Holds (a ++ ',' :: []) (us ++ []) :=
    ha.append_cons (holds_of_not_mem List.not_mem_nil) rfl (by decide)
  simpa using h

end Holds

/-! ## Entries -/

/-- A text is a mark, digits that write a word, and the suffix of a language. -/
def Spells (l : Language) (text : List Char) (w : UInt64) : Prop :=
  ∃ digits, word? digits = some w ∧ text = '0' :: 'x' :: (digits ++ l.literalEnd)

/-- A printed literal spells its word. -/
theorem spells_literal (l : Language) (w : UInt64) : Spells l (l.literal w) w :=
  ⟨word16 w, word?_word16 w, rfl⟩

/-- A suffix ends a run of digits. -/
theorem scanFrom_literalEnd (l : Language) {run : List Char} {found words : Array UInt64}
    (h : close run found = .ok words) : scanFrom (some run) l.literalEnd found = .ok words := by
  cases l with
  | c =>
    have hend : isHexDigit 'u' = false := rfl
    rw [Language.literalEnd, scanFrom, if_neg (by simp [hend]), h]
    rfl
  | rust => exact h

/-- **An entry holds its word.** -/
theorem holds_of_spells {l : Language} {text : List Char} {w : UInt64} (h : Spells l text w) :
    Holds text [w] := by
  obtain ⟨digits, hword, rfl⟩ := h
  intro found
  have hclose : close (digits.reverse ++ []) found = .ok (found.push w) := by
    rw [close, List.append_nil, List.reverse_reverse, hword]
  rw [scan, scanFrom, scanFrom_append_digits (forall_isHexDigit_of_word? hword),
    scanFrom_literalEnd l hclose]
  rfl

/-- **An entry has one mark.** -/
theorem occurrences_of_spells {l : Language} {text : List Char} {w : UInt64} (h : Spells l text w) :
    occurrences mark text = 1 := by
  obtain ⟨digits, hword, rfl⟩ := h
  have hdigits : 'x' ∉ digits := fun hmem ↦
    absurd (forall_isHexDigit_of_word? hword 'x' hmem) (by decide)
  have hrest : 'x' ∉ digits ++ l.literalEnd :=
    List.not_mem_append hdigits (by cases l <;> decide)
  have hx : ¬ mark <+: 'x' :: (digits ++ l.literalEnd) := fun hp ↦
    absurd (List.cons_prefix_cons.1 hp).1 (by decide)
  have hstarts : mark <+: '0' :: 'x' :: (digits ++ l.literalEnd) := List.prefix_append mark _
  rw [occurrences_cons_of_match hstarts, occurrences_cons_of_mismatch hx,
    occurrences_eq_zero (by decide) hrest]

/-- **Entries with commas between them** hold their words. -/
theorem holds_commaSeparated {l : Language} {texts : List (List Char)} {ws : List UInt64}
    (h : List.Forall₂ (Spells l) texts ws) : Holds (commaSeparated texts) ws := by
  induction h with
  | nil => exact holds_of_not_mem (by simp [commaSeparated])
  | @cons text w texts ws hspells hrest ih =>
    cases hrest with
    | nil => simpa [commaSeparated] using holds_of_spells hspells
    | @cons text' w' texts ws hspells' hrest =>
      rw [commaSeparated_cons text (List.cons_ne_nil text' texts), List.cons_append]
      exact (holds_of_spells hspells).append_cons (ih.append_left (by decide)) rfl (by decide)

/-- They have a mark for each word. -/
theorem occurrences_commaSeparated {l : Language} {texts : List (List Char)} {ws : List UInt64}
    (h : List.Forall₂ (Spells l) texts ws) :
    occurrences mark (commaSeparated texts) = ws.length := by
  induction h with
  | nil => rfl
  | @cons text w texts ws hspells hrest ih =>
    have htext := occurrences_of_spells hspells
    cases hrest with
    | nil => simpa [commaSeparated] using htext
    | @cons text' w' texts ws hspells' hrest =>
      have hbehind : occurrences mark ([' '] ++ commaSeparated (text' :: texts)) =
          (w' :: ws).length :=
        (occurrences_append_of_not_mem (by decide) _).trans ih
      rw [commaSeparated_cons text (List.cons_ne_nil text' texts), List.cons_append,
        occurrences_append_cons mark_ne_nil (by decide), htext, hbehind]
      exact Nat.add_comm 1 (w' :: ws).length

end Literal
end CrcTables
