import CrcTables.Generator.Spelling
import CrcTables.Proofs.Text.Blank
import CrcTables.Proofs.Text.Digits
import Mathlib.Data.Nat.Digits.Lemmas

/-!
# How a polynomial may be spelled

A polynomial is read from a body of digits and underscores that has one to sixteen digits, after a
mark or none, between blanks.  Nothing else is read, and what is read is the number of the digits,
which always fits a word.

## What is here

* `Text.ofHex_eq_ofDigits`, `Text.ofHex_lt` — the number of some digits, and how large it can be.
* `Generator.IsBody`, `Generator.base16` — the bodies, and the number of their digits.
* `Generator.checked_iff`, `Generator.IsBody.convert?_eq` — the checks let through the bodies, and
  behind the checks the conversion never fails.
* `Generator.read?_eq_some_iff` — what is read.
* `Generator.Spelling` — the grammar as a structure; a text is one exactly if trimming and taking
  the mark away leaves a body (`Generator.exists_spelling_iff`).
* `Generator.read?_marked16` — a word that is printed with its mark is read back.
* `Generator.parse_spelling` — what is read, as what, and the error that all other texts give.
-/

set_option autoImplicit false
namespace CrcTables

/-! ## The number of some digits -/

namespace Text

theorem hexValue_lt {c : Char} (h : isHexDigit c = true) : hexValue c < 16 := by
  rw [isHexDigit_iff] at h
  have hnine : c ≤ '9' ↔ c.toNat ≤ 57 := Iff.rfl
  have hF : c ≤ 'F' ↔ c.toNat ≤ 70 := Iff.rfl
  simp only [hexValue, hnine, hF]
  split
  · omega
  · split <;> omega

/-- Digits stand for their number in base sixteen. -/
theorem ofHex_eq_ofDigits (digits : List Char) :
    ofHex digits = Nat.ofDigits 16 (digits.map hexValue).reverse := by
  rw [Nat.ofDigits_eq_foldr, List.foldr_reverse, List.foldl_map, ofHex]
  simp only [Nat.add_comm, Nat.cast_id]

/-- Each digit makes the bound of the number sixteen times as large. -/
theorem ofHex_lt {digits : List Char} (h : ∀ c ∈ digits, isHexDigit c = true) :
    ofHex digits < 16 ^ digits.length := by
  rw [ofHex_eq_ofDigits]
  have hlt : ∀ d ∈ (digits.map hexValue).reverse, d < 16 := by
    simpa using fun c hc ↦ hexValue_lt (h c hc)
  simpa using Nat.ofDigits_lt_base_pow_length (by decide) hlt

/-- Sixteen digits fit a word. -/
theorem ofHex_lt_word {digits : List Char} (h : ∀ c ∈ digits, isHexDigit c = true)
    (hlength : digits.length ≤ 16) : ofHex digits < 2 ^ 64 :=
  calc ofHex digits < 16 ^ digits.length := ofHex_lt h
    _ ≤ 16 ^ 16 := Nat.pow_le_pow_right (by decide) hlength
    _ = 2 ^ 64 := by decide

/-- A digit takes one byte. -/
theorem utf8ByteSize_ofList {digits : List Char} (h : ∀ c ∈ digits, isHexDigit c = true) :
    (String.ofList digits).utf8ByteSize = digits.length := by
  induction digits with
  | nil => rfl
  | cons c digits ih =>
    rw [List.forall_mem_cons] at h
    have hbyte : c.utf8Size = 1 := by
      have hdigit := isHexDigit_iff.1 h.1
      have hascii : c.toNat ≤ 127 := by omega
      exact Char.utf8Size_eq_one_iff.2 hascii
    rw [← List.singleton_append, String.ofList_append, String.utf8ByteSize_append, ih h.2]
    simp [hbyte, Nat.add_comm]

end Text

open Text

namespace Generator

/-! ## Bodies -/

/-- Digits with underscores anywhere between and around them. -/
structure IsBody (d : List Char) : Prop where
  /-- There are only digits and underscores. -/
  part : ∀ c ∈ d, isHexDigit c = true ∨ c = '_'
  /-- There is a digit. -/
  one_le : 1 ≤ (d.filter isHexDigit).length
  /-- There are at most sixteen of them, leading zeros included. -/
  le_sixteen : (d.filter isHexDigit).length ≤ 16

/-- The number that the digits of a body are in base sixteen. -/
def base16 (d : List Char) : Nat := Nat.ofDigits 16 ((d.filter isHexDigit).map hexValue).reverse

/-- Without the underscores the digits are left. -/
theorem withoutUnderscores_eq {d : List Char} (h : ∀ c ∈ d, isHexDigit c = true ∨ c = '_') :
    withoutUnderscores d = d.filter isHexDigit := by
  refine List.filter_congr fun c hc ↦ ?_
  rcases h c hc with hdigit | rfl
  · have hne : c ≠ '_' := by
      rintro rfl
      contradiction
    simp [hdigit, hne]
  · decide

/-- Reading what is left gives the number of the body. -/
theorem IsBody.ofHex_eq {d : List Char} (h : IsBody d) :
    ofHex (withoutUnderscores d) = base16 d := by
  rw [withoutUnderscores_eq h.part, ofHex_eq_ofDigits, base16]

/-- The number of a body fits a word. -/
theorem IsBody.base16_lt {d : List Char} (h : IsBody d) : base16 d < 2 ^ 64 := by
  rw [base16, ← ofHex_eq_ofDigits]
  exact ofHex_lt_word (fun c hc ↦ (List.mem_filter.1 hc).2) h.le_sixteen

/-! ## Checks and a conversion -/

/-- **The checks let through just the bodies.**  Bytes can be counted for digits, because a text
whose bytes are not as many as its characters is refused for these characters anyway. -/
theorem checked_iff {d : List Char} : Checked (withoutUnderscores d) ↔ IsBody d := by
  rw [Checked, List.all_eq_true, ← List.length_pos_iff]
  constructor
  · rintro ⟨hone, hbytes, hdigits⟩
    have hpart : ∀ c ∈ d, isHexDigit c = true ∨ c = '_' := by
      intro c hc
      by_cases hunderscore : c = '_'
      · exact .inr hunderscore
      · exact .inl (hdigits c (List.mem_filter.2 ⟨hc, by simpa using hunderscore⟩))
    rw [utf8ByteSize_ofList hdigits, withoutUnderscores_eq hpart] at hbytes
    rw [withoutUnderscores_eq hpart] at hone
    exact ⟨hpart, hone, hbytes⟩
  · intro h
    have hdigits : ∀ c ∈ d.filter isHexDigit, isHexDigit c = true := fun c hc ↦
      (List.mem_filter.1 hc).2
    rw [withoutUnderscores_eq h.part, utf8ByteSize_ofList hdigits]
    exact ⟨h.one_le, h.le_sixteen, hdigits⟩

/-- **Behind the checks the conversion never fails**, and it gives the number of the body. -/
theorem IsBody.convert?_eq {d : List Char} (h : IsBody d) :
    convert? (withoutUnderscores d) = some (UInt64.ofNat (base16 d)) := by
  have hchecked := checked_iff.2 h
  have hplus : dropPlus (withoutUnderscores d) = withoutUnderscores d := by
    unfold dropPlus
    split
    · next rest heq =>
      rw [heq] at hchecked
      exact absurd (List.all_eq_true.1 hchecked.2.2 '+' List.mem_cons_self) (by decide)
    · rfl
  simp only [convert?, hplus, h.ofHex_eq]
  exact if_pos ⟨hchecked.1, hchecked.2.2, h.base16_lt⟩

/-! ## Reading -/

/-- What is left of a text without the blanks around it and without a mark. -/
def bodyOf (s : List Char) : List Char := dropMark (trim s)

/-- The two steps of reading. -/
theorem read?_eq (s : List Char) : read? s =
    if Checked (withoutUnderscores (bodyOf s)) then convert? (withoutUnderscores (bodyOf s))
    else none :=
  rfl

/-- **A polynomial is read from a body**, as its number. -/
theorem read?_eq_some_iff {s : List Char} {p : UInt64} :
    read? s = some p ↔ IsBody (bodyOf s) ∧ base16 (bodyOf s) = p.toNat := by
  by_cases hbody : IsBody (bodyOf s)
  · rw [read?_eq, if_pos (checked_iff.2 hbody), hbody.convert?_eq, Option.some_inj,
      ← UInt64.toNat_inj, UInt64.toNat_ofNat_of_lt' hbody.base16_lt]
    exact (and_iff_right hbody).symm
  · rw [read?_eq, if_neg (checked_iff.not.2 hbody)]
    exact iff_of_false nofun fun h ↦ hbody h.1

theorem read?_eq_none_iff {s : List Char} : read? s = none ↔ ¬IsBody (bodyOf s) := by
  rw [Option.eq_none_iff_forall_ne_some]
  constructor
  · intro hnone hbody
    refine hnone (UInt64.ofNat (base16 (bodyOf s))) (read?_eq_some_iff.2 ⟨hbody, ?_⟩)
    rw [UInt64.toNat_ofNat_of_lt' hbody.base16_lt]
  · intro hbody p hp
    exact hbody (read?_eq_some_iff.1 hp).1

theorem parse_eq_ok {s : String} {p : UInt64} : parse s = .ok p ↔ read? s.toList = some p := by
  unfold parse
  cases read? s.toList <;> simp

/-- A text that is refused is in the error as it was given. -/
theorem parse_eq_error {s : String} :
    parse s = .error (.polynomialText s) ↔ read? s.toList = none := by
  unfold parse
  cases read? s.toList <;> simp

/-! ## The grammar -/

/-- What may stand before a body. -/
inductive Mark where
  /-- Nothing. -/
  | absent
  /-- The mark with a small letter. -/
  | small
  /-- The mark with a capital letter. -/
  | capital
  deriving DecidableEq, Repr

/-- The mark as text. -/
def Mark.text : Mark → List Char
  | absent => []
  | small => ['0', 'x']
  | capital => ['0', 'X']

/-- A text that spells a polynomial. -/
structure Spelling where
  /-- The blanks in front. -/
  front : List Char
  /-- The mark. -/
  mark : Mark
  /-- The digits and underscores. -/
  body : List Char
  /-- The blanks behind. -/
  back : List Char
  /-- There are only blanks in front. -/
  blank_front : ∀ c ∈ front, isBlank c = true
  /-- There are only blanks behind. -/
  blank_back : ∀ c ∈ back, isBlank c = true
  /-- Between them is a body. -/
  isBody : IsBody body

namespace Spelling

variable (sp : Spelling)

/-- The text of a spelling. -/
def text : List Char := sp.front ++ (sp.mark.text ++ sp.body ++ sp.back)

theorem isBlank_of_mem {c : Char} (hc : c ∈ sp.mark.text ++ sp.body) : isBlank c = false := by
  rcases List.mem_append.1 hc with hmark | hbody
  · have hmarks : ∀ m : Mark, ∀ c ∈ m.text, isBlank c = false := by
      rintro (_ | _ | _) <;> simp [Mark.text] <;> decide
    exact hmarks sp.mark c hmark
  · rcases sp.isBody.part c hbody with hdigit | rfl
    · exact isBlank_of_isIdentifierPart (isIdentifierPart_of_isHexDigit hdigit)
    · rfl

/-- Trimming leaves the mark and the body. -/
theorem trim_text : trim sp.text = sp.mark.text ++ sp.body := by
  rw [text, trim_append_left sp.blank_front, trim_append_right sp.blank_back,
    trim_word fun _ ↦ sp.isBlank_of_mem]

/-- The mark that is taken away is the one that was meant: no body begins like another. -/
theorem dropMark_text : dropMark (sp.mark.text ++ sp.body) = sp.body := by
  cases sp.mark with
  | small => rfl
  | capital => rfl
  | absent =>
    show dropMark sp.body = sp.body
    unfold dropMark
    split
    · next rest hbody => exact absurd (sp.isBody.part 'x' (by simp [hbody])) (by decide)
    · next rest hbody => exact absurd (sp.isBody.part 'X' (by simp [hbody])) (by decide)
    · rfl

/-- The body of a spelling is what is left of its text. -/
theorem bodyOf_text : bodyOf sp.text = sp.body := by
  rw [bodyOf, sp.trim_text, sp.dropMark_text]

/-- A spelling is read as the number of its body. -/
theorem read?_text : read? sp.text = some (UInt64.ofNat (base16 sp.body)) := by
  rw [read?_eq_some_iff, sp.bodyOf_text, UInt64.toNat_ofNat_of_lt' sp.isBody.base16_lt]
  exact ⟨sp.isBody, rfl⟩

end Spelling

theorem filter_word16 (w : UInt64) : (word16 w).filter isHexDigit = word16 w :=
  List.filter_eq_self.2 fun _ ↦ isHexDigit_of_mem_word16

/-- The digits of a word are a body. -/
theorem isBody_word16 (w : UInt64) : IsBody (word16 w) := by
  have hlength : ((word16 w).filter isHexDigit).length = 16 := by
    rw [filter_word16, length_word16]
  exact ⟨fun c hc ↦ .inl (isHexDigit_of_mem_word16 hc), by omega, by omega⟩

/-- Their number is the word. -/
theorem base16_word16 (w : UInt64) : base16 (word16 w) = w.toNat := by
  rw [base16, filter_word16, ← ofHex_eq_ofDigits, ofHex_word16]

/-- A word spelled with its mark and all its digits. -/
def Spelling.ofWord (w : UInt64) : Spelling where
  front := []
  mark := .small
  body := word16 w
  back := []
  blank_front := isBlank_of_mem_nil
  blank_back := isBlank_of_mem_nil
  isBody := isBody_word16 w

/-- Every word has a spelling. -/
theorem exists_spelling_of_word (p : UInt64) : ∃ sp : Spelling, base16 sp.body = p.toNat :=
  ⟨.ofWord p, base16_word16 p⟩

/-- **A word is read back** as a polynomial. -/
theorem read?_marked16 (w : UInt64) : read? (marked16 w) = some w := by
  have htext : (Spelling.ofWord w).text = marked16 w := List.append_nil _
  rw [← htext, Spelling.read?_text, Spelling.ofWord, base16_word16, UInt64.ofNat_toNat]

/-- A text is its mark, if it has one, and what is left without it. -/
theorem exists_mark (s : List Char) : ∃ m : Mark, s = m.text ++ dropMark s := by
  unfold dropMark
  split
  · exact ⟨.small, rfl⟩
  · exact ⟨.capital, rfl⟩
  · exact ⟨.absent, rfl⟩

/-- **A text is a spelling** exactly if a body is left of it. -/
theorem exists_spelling_iff {s : List Char} :
    (∃ sp : Spelling, sp.text = s) ↔ IsBody (bodyOf s) := by
  constructor
  · rintro ⟨sp, rfl⟩
    rw [sp.bodyOf_text]
    exact sp.isBody
  · intro hbody
    obtain ⟨front, back, hfront, hback, htext⟩ := exists_eq_append_trim s
    obtain ⟨mark, hmark⟩ := exists_mark (trim s)
    refine ⟨⟨front, mark, bodyOf s, back, hfront, hback, hbody⟩, ?_⟩
    show front ++ (mark.text ++ bodyOf s ++ back) = s
    rw [bodyOf, ← hmark, ← htext]

/-- **What is read as a polynomial is exactly what the grammar spells.**  A text is read if without
the blanks around it and without a mark it is a body, and it is read as the number of the body; any
other text is refused, and the error holds it as it was given.  That is what the checks and the
conversion do, and only the checks ever refuse a text.  The texts that are read are the spellings of
the grammar, and so every word is got back from each of its spellings, of which it has some. -/
theorem parse_spelling (s : String) :
    (∀ p, parse s = .ok p ↔ IsBody (bodyOf s.toList) ∧ base16 (bodyOf s.toList) = p.toNat) ∧
      (parse s = .error (.polynomialText s) ↔ ¬IsBody (bodyOf s.toList)) ∧
      ((∀ p, parse s = .ok p ↔ Checked (withoutUnderscores (bodyOf s.toList)) ∧
          convert? (withoutUnderscores (bodyOf s.toList)) = some p) ∧
        (parse s = .error (.polynomialText s) ↔
          ¬Checked (withoutUnderscores (bodyOf s.toList)))) ∧
      ((∃ sp : Spelling, sp.text = s.toList) ↔ IsBody (bodyOf s.toList)) ∧
      (∀ sp : Spelling, base16 sp.body < 2 ^ 64 ∧
        parse (String.ofList sp.text) = .ok (UInt64.ofNat (base16 sp.body))) ∧
      ∀ p : UInt64, ∃ sp : Spelling, base16 sp.body = p.toNat := by
  have hok : ∀ p, parse s = .ok p ↔
      IsBody (bodyOf s.toList) ∧ base16 (bodyOf s.toList) = p.toNat :=
    fun p ↦ parse_eq_ok.trans read?_eq_some_iff
  have herror : parse s = .error (.polynomialText s) ↔ ¬IsBody (bodyOf s.toList) :=
    parse_eq_error.trans read?_eq_none_iff
  refine ⟨hok, herror, ⟨fun p ↦ ?converted, ?refused⟩, exists_spelling_iff,
    fun sp ↦ ⟨sp.isBody.base16_lt, ?spelled⟩, exists_spelling_of_word⟩
  case converted =>
    rw [hok, checked_iff]
    refine and_congr_right fun hbody ↦ ?_
    rw [hbody.convert?_eq, Option.some_inj, ← UInt64.toNat_inj,
      UInt64.toNat_ofNat_of_lt' hbody.base16_lt]
  case refused => rw [herror, checked_iff]
  case spelled =>
    rw [parse_eq_ok, String.toList_ofList]
    exact sp.read?_text

/-- Blanks of other scripts, a mark and underscores around the digits, but none inside a mark. -/
example : parse "\u3000 0X__Fa_\t" = .ok 0xfa ∧
    parse "0_x12" = .error (.polynomialText "0_x12") := ⟨rfl, rfl⟩

end Generator
end CrcTables
