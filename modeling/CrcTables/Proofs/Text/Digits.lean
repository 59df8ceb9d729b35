import CrcTables.Listing.Style
import CrcTables.Text.Blank
import CrcTables.Text.Count
import Mathlib.Algebra.Group.Nat.Defs

/-!
# Numbers survive being written

What is written in digits is read back as the same number, words from their sixteen hexadecimal
digits and counts from their decimal ones.

## What is here

* `Text.isIdentifierPart_of_isHexDigit` — digits are among the characters of identifiers, so what
  holds of those (`Text.isBlank_of_isIdentifierPart`) holds of digits.
* `Text.word?_word16` — a word is read back from its digits.
* `Text.word?_eq_some_iff` — what is read as a word at all.
* `Text.count?_decimal` — so is a count, if it is below the limit; a larger number is refused.
-/

set_option autoImplicit false
namespace CrcTables
namespace Text

/-! ## Digits are characters of identifiers -/

theorem isHexDigit_iff {c : Char} :
    isHexDigit c = true ↔ (48 ≤ c.toNat ∧ c.toNat ≤ 57) ∨ (97 ≤ c.toNat ∧ c.toNat ≤ 102) ∨
      (65 ≤ c.toNat ∧ c.toNat ≤ 70) := by
  simp only [isHexDigit, Bool.or_eq_true, Bool.and_eq_true, decide_eq_true_eq, or_assoc]
  exact Iff.rfl

theorem isAlpha_iff {c : Char} :
    c.isAlpha = true ↔ (65 ≤ c.toNat ∧ c.toNat ≤ 90) ∨ (97 ≤ c.toNat ∧ c.toNat ≤ 122) := by
  have hupper : c.isUpper = true ↔ 65 ≤ c.toNat ∧ c.toNat ≤ 90 := decide_eq_true_iff
  have hlower : c.isLower = true ↔ 97 ≤ c.toNat ∧ c.toNat ≤ 122 := by
    refine (Bool.and_eq_true _ _).to_iff.trans (and_congr ?_ ?_) <;> exact decide_eq_true_iff
  have halpha : c.isAlpha = true ↔ c.isUpper = true ∨ c.isLower = true := Bool.or_eq_true_iff
  rw [halpha, hupper, hlower]

theorem isDigit_iff {c : Char} : c.isDigit = true ↔ 48 ≤ c.toNat ∧ c.toNat ≤ 57 := by
  refine (Bool.and_eq_true _ _).to_iff.trans (and_congr ?_ ?_) <;> exact decide_eq_true_iff

theorem isIdentifierPart_iff {c : Char} :
    isIdentifierPart c = true ↔ (65 ≤ c.toNat ∧ c.toNat ≤ 90) ∨ (97 ≤ c.toNat ∧ c.toNat ≤ 122) ∨
      (48 ≤ c.toNat ∧ c.toNat ≤ 57) ∨ c.toNat = 95 := by
  have hunderscore : c = '_' ↔ c.toNat = 95 := by
    rw [← Char.toNat_inj]
    exact Iff.rfl
  simp only [isIdentifierPart, Char.isAlphanum, Bool.or_eq_true, beq_iff_eq, isAlpha_iff,
    isDigit_iff, hunderscore, or_assoc]

theorem isIdentifierPart_of_isHexDigit {c : Char} (h : isHexDigit c = true) :
    isIdentifierPart c = true := by
  rw [isHexDigit_iff] at h
  rw [isIdentifierPart_iff]
  omega

theorem isIdentifierPart_of_isDigit {c : Char} (h : c.isDigit = true) :
    isIdentifierPart c = true := by
  simp [isIdentifierPart, Char.isAlphanum, h]

/-- An identifier has no blanks in it. -/
theorem isBlank_of_isIdentifierPart {c : Char} (h : isIdentifierPart c = true) :
    isBlank c = false := by
  rw [isIdentifierPart_iff] at h
  simp only [isBlank, inRanges, blankRanges, List.any_cons, List.any_nil, Bool.or_eq_false_iff,
    Bool.and_eq_false_iff, decide_eq_false_iff_not, and_true]
  omega

/-- A character of an identifier is none of the others. -/
theorem ne_of_isIdentifierPart {c d : Char} (h : isIdentifierPart c = true)
    (hd : isIdentifierPart d = false) : c ≠ d := by
  rintro rfl
  rw [h] at hd
  contradiction

/-! ## Hexadecimal words -/

theorem isHexDigit_digitChar {n : Nat} (h : n < 16) : isHexDigit (Nat.digitChar n) = true := by
  revert n
  decide

theorem hexValue_digitChar {n : Nat} (h : n < 16) : hexValue (Nat.digitChar n) = n := by
  revert n
  decide

/-- What holds of the sixteen digits holds of all that is written before the tail. -/
theorem forall_mem_writeHex {P : Char → Prop} (hP : ∀ d < 16, P (Nat.digitChar d)) (width n : Nat)
    {tail : List Char} (h : ∀ c ∈ tail, P c) : ∀ c ∈ writeHex width n tail, P c := by
  induction width generalizing n tail with
  | zero => exact h
  | succ width ih =>
    exact ih (n / 16) (List.forall_mem_cons.2 ⟨hP _ (Nat.mod_lt n (by decide)), h⟩)

theorem isHexDigit_of_mem_word16 {w : UInt64} {c : Char} (h : c ∈ word16 w) :
    isHexDigit c = true :=
  forall_mem_writeHex (P := fun c ↦ isHexDigit c = true) (fun _ ↦ isHexDigit_digitChar) 16 w.toNat
    (List.forall_mem_nil _) c h

/-- Words are written in lower case. -/
theorem isLower_of_mem_word16 {w : UInt64} {c : Char} (h : c ∈ word16 w) :
    ('0' ≤ c ∧ c ≤ '9') ∨ ('a' ≤ c ∧ c ≤ 'f') := by
  have hdigits : ∀ d < 16, ('0' ≤ Nat.digitChar d ∧ Nat.digitChar d ≤ '9') ∨
      ('a' ≤ Nat.digitChar d ∧ Nat.digitChar d ≤ 'f') := by decide
  exact forall_mem_writeHex (P := fun c ↦ ('0' ≤ c ∧ c ≤ '9') ∨ ('a' ≤ c ∧ c ≤ 'f')) hdigits 16
    w.toNat (List.forall_mem_nil _) c h

theorem isIdentifierPart_of_mem_marked16 {w : UInt64} {c : Char} (h : c ∈ marked16 w) :
    isIdentifierPart c = true := by
  rw [marked16, List.mem_cons, List.mem_cons] at h
  rcases h with rfl | rfl | h
  · rfl
  · rfl
  · exact isIdentifierPart_of_isHexDigit (isHexDigit_of_mem_word16 h)

/-- Reading goes through the digits that were written and takes in their number, as far as it fits
the width. -/
theorem foldl_writeHex (width n : Nat) (tail : List Char) (m : Nat) :
    (writeHex width n tail).foldl (fun n c ↦ 16 * n + hexValue c) m =
      tail.foldl (fun n c ↦ 16 * n + hexValue c) (16 ^ width * m + n % 16 ^ width) := by
  induction width generalizing n tail with
  | zero => simp [writeHex, Nat.mod_one]
  | succ width ih =>
    have hlast : hexValue (Nat.digitChar (n % 16)) = n % 16 :=
      hexValue_digitChar (Nat.mod_lt n (by decide))
    have hsplit : n % 16 ^ (width + 1) = n % 16 + 16 * (n / 16 % 16 ^ width) := by
      rw [Nat.pow_succ', Nat.mod_mul]
    rw [writeHex, ih, List.foldl_cons, hlast, hsplit, Nat.pow_succ']
    congr 1
    rw [Nat.mul_add, ← Nat.mul_assoc]
    omega

/-- The sixteen digits of a word stand for its value. -/
theorem ofHex_word16 (w : UInt64) : ofHex (word16 w) = w.toNat := by
  rw [ofHex, word16, foldl_writeHex, List.foldl_nil, Nat.mul_zero, Nat.zero_add]
  exact Nat.mod_eq_of_lt w.toNat_lt

/-- **A word is read back** from its sixteen digits. -/
theorem word?_word16 (w : UInt64) : word? (word16 w) = some w := by
  have hlength := length_word16 w
  have hne : word16 w ≠ [] := List.ne_nil_of_length_pos (by omega)
  have hdigits : (word16 w).all isHexDigit = true :=
    List.all_eq_true.2 fun _ hc ↦ isHexDigit_of_mem_word16 hc
  rw [word?, if_pos ⟨hne, by omega, hdigits⟩, ofHex_word16, UInt64.ofNat_toNat]

/-- **A word is read** from one to sixteen digits and from nothing else. -/
theorem word?_eq_some_iff {digits : List Char} {w : UInt64} :
    word? digits = some w ↔ (1 ≤ digits.length ∧ digits.length ≤ 16) ∧
      (∀ c ∈ digits, isHexDigit c = true) ∧ UInt64.ofNat (ofHex digits) = w := by
  have hpos : digits ≠ [] ↔ 1 ≤ digits.length := List.length_pos_iff.symm
  rw [word?, Option.ite_none_right_eq_some, hpos, List.all_eq_true, and_assoc, and_assoc, and_assoc,
    Option.some_inj]

/-- What is read as a word consists of digits. -/
theorem forall_isHexDigit_of_word? {digits : List Char} {w : UInt64}
    (h : word? digits = some w) : ∀ c ∈ digits, isHexDigit c = true :=
  (word?_eq_some_iff.1 h).2.1

/-! ## Decimal counts -/

theorem isDigit_of_mem_decimal {n : Nat} {c : Char} (h : c ∈ decimal n) : c.isDigit = true :=
  Nat.isDigit_of_mem_toDigits (by decide) (by decide) h

theorem decimal_ne_nil (n : Nat) : decimal n ≠ [] := Nat.toDigits_ne_nil

theorem ofDecimal_decimal (n : Nat) : ofDecimal (decimal n) = n := Nat.ofDigitChars_ten_toDigits

/-- No plus sign stands before a number that was written. -/
theorem dropPlus_decimal (n : Nat) : dropPlus (decimal n) = decimal n := by
  have hplus : '+' ∉ decimal n := fun h ↦ by simpa using isDigit_of_mem_decimal h
  rw [dropPlus.eq_def]
  split
  · next rest heq => simp [heq] at hplus
  · rfl

/-- **A count is read back** from its digits, and a number that is none is refused. -/
theorem count?_decimal (n : Nat) :
    count? (decimal n) = if n < countLimit then some n else none := by
  have hdigits : (decimal n).all isDecimalDigit = true := by
    refine List.all_eq_true.2 fun c hc ↦ ?_
    have h := isDigit_of_mem_decimal hc
    rw [Char.isDigit, Bool.and_eq_true, decide_eq_true_eq, decide_eq_true_eq] at h
    rw [isDecimalDigit, Bool.and_eq_true, decide_eq_true_eq, decide_eq_true_eq]
    exact h
  simp only [count?, dropPlus_decimal, ofDecimal_decimal]
  by_cases hn : n < countLimit
  · rw [if_pos ⟨decimal_ne_nil n, hdigits, hn⟩, if_pos hn]
  · rw [if_neg fun h ↦ hn h.2.2, if_neg hn]

end Text
end CrcTables
