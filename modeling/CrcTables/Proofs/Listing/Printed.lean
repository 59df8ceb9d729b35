import CrcTables.Proofs.Listing.Body
import CrcTables.Proofs.Listing.Opening
import CrcTables.Proofs.Text.Lines

/-!
# A listing is made of its lines

No line of a listing has a line feed or a carriage return in it, so the lines that are put together
in the text are found again in it.

## What is here

* `IsBreak` — the two characters that no line may have.
* `Printer.not_mem_lines` — no line has one; with other lines in the array
  (`Printer.not_mem_linesWith`) none has one if none of these has.
* `Printer.lines_render` — the lines of the text are the lines that were printed.
* `Printer.untilArray`, `Printer.arrayText` — the text of a listing around its first equals sign
  (`Printer.toList_render`, `Printer.not_mem_untilArray`).
-/

set_option autoImplicit false
namespace CrcTables

open Text

/-- The characters that end lines. -/
def IsBreak (c : Char) : Prop := c = '\n' ∨ c = '\r'

theorem isLine_of_forall_isBreak {l : List Char} (h : ∀ c, IsBreak c → c ∉ l) : IsLine l :=
  ⟨h '\n' (.inl rfl), fun hlast ↦ h '\r' (.inr rfl) (List.mem_of_getLast? hlast)⟩

/-- A comment has only its marks, blanks and its text in it. -/
theorem Language.not_mem_comment (l : Language) {c : Char} (hc : c ∉ ['/', '*', ' '])
    {text : List Char} (h : c ∉ text) : c ∉ l.comment text := by
  have hmark : ∀ mark : List Char, mark ⊆ ['/', '*', ' '] → c ∉ mark := fun _ hsub hmem ↦
    hc (hsub hmem)
  cases l with
  | c =>
    exact List.not_mem_append (List.not_mem_append (hmark _ (by decide)) h) (hmark _ (by decide))
  | rust => exact List.not_mem_append (hmark _ (by decide)) h

section IsBreak

variable {c : Char} (hc : IsBreak c)

include hc

theorem IsBreak.not_mem {text : List Char} (h : '\n' ∉ text ∧ '\r' ∉ text) : c ∉ text := by
  rcases hc with rfl | rfl
  · exact h.1
  · exact h.2

theorem IsBreak.isIdentifierPart_eq_false : isIdentifierPart c = false := by
  rcases hc with rfl | rfl <;> rfl

theorem IsBreak.isShapePart_eq_false : Language.isShapePart c = false := by
  rcases hc with rfl | rfl <;> rfl

theorem IsBreak.not_mem_marked16 (w : UInt64) : c ∉ marked16 w := by
  intro hmem
  exact ne_of_isIdentifierPart (isIdentifierPart_of_mem_marked16 hmem)
    hc.isIdentifierPart_eq_false rfl

theorem IsBreak.not_mem_literal (l : Language) (w : UInt64) : c ∉ l.literal w :=
  List.not_mem_append (hc.not_mem_marked16 w) (hc.not_mem (by cases l <;> decide))

theorem IsBreak.not_mem_comment (l : Language) {text : List Char} (h : c ∉ text) :
    c ∉ l.comment text :=
  l.not_mem_comment (hc.not_mem (by decide)) h

theorem IsBreak.not_mem_declaration (l : Language) {name : List Char} (h : IsName name)
    (s : TableSet) : c ∉ l.declaration name s := by
  have hmark : c ∉ [l.mark] := hc.not_mem (by cases l <;> decide)
  have hblank : c ∉ [' '] := hc.not_mem (by decide)
  rw [Language.declaration, Language.heading_eq]
  refine List.not_mem_append (List.not_mem_append ?_ ?_) (hc.not_mem (by cases l <;> decide))
  · exact Language.not_mem_before h hc.isIdentifierPart_eq_false (by simpa using hblank) l
  · exact List.not_mem_cons_of_ne_of_not_mem (by simpa using hmark)
      (Language.not_mem_shape hc.isShapePart_eq_false l s)

end IsBreak

/-! ## Rows -/

section Rows

variable {c : Char}

theorem not_mem_commaSeparated {texts : List (List Char)} (hc : c ∉ [',', ' '])
    (h : ∀ text ∈ texts, c ∉ text) : c ∉ commaSeparated texts := by
  induction texts with
  | nil => simp [commaSeparated]
  | cons text texts ih =>
    have htext : c ∉ text := h text List.mem_cons_self
    have hrest := ih fun text' htext' ↦ h text' (List.mem_cons_of_mem text htext')
    cases texts with
    | nil => simpa [commaSeparated] using htext
    | cons text' texts =>
      rw [commaSeparated_cons text (List.cons_ne_nil text' texts)]
      exact List.not_mem_append htext (List.not_mem_append hc hrest)

theorem not_mem_withCommas (last : Nat) {ls : List (List Char)} (hc : c ≠ ',')
    (h : ∀ l ∈ ls, c ∉ l) : ∀ l ∈ withCommas last ls, c ∉ l := by
  intro l hl
  obtain ⟨r, hr, rfl⟩ := List.mem_mapIdx.1 hl
  have hend : c ∉ rowEnd last r := by
    rcases rowEnd_eq_or last r with hend | hend <;> simp [hend, hc]
  exact List.not_mem_append (h ls[r] (List.getElem_mem hr)) hend

end Rows

namespace Printer

variable (pr : Printer)

theorem not_mem_rowLines {c : Char} (hc : c ∉ [' ', '\t', ',']) {texts : List (List Char)}
    (h : ∀ text ∈ texts, c ∉ text) (depth : Nat) : ∀ l ∈ pr.rowLines depth texts, c ∉ l := by
  simp only [List.mem_cons, List.not_mem_nil, or_false, not_or] at hc
  obtain ⟨hspace, htab, hcomma⟩ := hc
  refine not_mem_withCommas _ hcomma fun l hl ↦ ?_
  obtain ⟨row, hrow, rfl⟩ := List.mem_map.1 hl
  obtain ⟨r, -, rfl⟩ := mem_rows.1 hrow
  refine List.not_mem_append (pr.not_mem_indentation ⟨hspace, htab⟩ depth) ?_
  refine not_mem_commaSeparated (by simp [hspace, hcomma]) fun text htext ↦ ?_
  exact h text (List.mem_of_mem_drop (List.mem_of_mem_take htext))

section IsBreak

variable {c : Char} (hc : IsBreak c)

include hc

/-- No line of a table has a break in it, if no entry has. -/
theorem not_mem_tableLines (nested : Bool) {texts : List (List Char)}
    (h : ∀ text ∈ texts, c ∉ text) : ∀ l ∈ pr.tableLines nested texts, c ∉ l := by
  have hlayout : c ∉ [' ', '\t', ','] := hc.not_mem (by decide)
  have hindent : c ∉ pr.indentation 1 := by
    simp only [List.mem_cons, not_or] at hlayout
    exact pr.not_mem_indentation ⟨hlayout.1, hlayout.2.1⟩ 1
  cases nested with
  | false => exact pr.not_mem_rowLines hlayout h 1
  | true =>
    intro l hl
    rw [tableLines, if_pos rfl, nestedLines, List.mem_append, List.mem_cons,
      List.mem_singleton] at hl
    rcases hl with (rfl | hl) | rfl
    · exact List.not_mem_append hindent (hc.not_mem (by cases pr.style.language <;> decide))
    · exact pr.not_mem_rowLines hlayout h 2 l hl
    · exact List.not_mem_append hindent (hc.not_mem (by cases pr.style.language <;> decide))

theorem not_mem_flatMap_tableLines (nested : Bool) {tables : List (List (List Char))}
    (h : ∀ texts ∈ tables, ∀ text ∈ texts, c ∉ text) :
    ∀ l ∈ tables.flatMap (pr.tableLines nested), c ∉ l := by
  intro l hl
  obtain ⟨texts, htexts, hl⟩ := List.mem_flatMap.1 hl
  exact pr.not_mem_tableLines hc nested (h texts htexts) l hl

theorem not_mem_bodyLines (s : TableSet) : ∀ l ∈ pr.bodyLines s, c ∉ l := by
  rw [bodyLines_eq]
  refine pr.not_mem_flatMap_tableLines hc s.isNested fun texts htexts text htext ↦ ?_
  obtain ⟨t, -, rfl⟩ := List.mem_map.1 htexts
  obtain ⟨w, -, rfl⟩ := List.mem_map.1 htext
  exact hc.not_mem_literal pr.style.language w

/-- No line of a listing has a break in it, if none of its array has. -/
theorem not_mem_linesWith (w : UInt64) (s : TableSet) {body : List (List Char)}
    (h : ∀ l ∈ body, c ∉ l) : ∀ l ∈ pr.linesWith w s body, c ∉ l := by
  intro l hl
  rw [linesWith, List.mem_append, List.mem_append, List.mem_cons, List.mem_singleton,
    commentLines, List.mem_cons, List.mem_singleton] at hl
  rcases hl with ((rfl | rfl) | rfl | hl) | rfl
  · exact hc.not_mem_comment pr.style.language (hc.not_mem (by decide))
  · refine hc.not_mem_comment pr.style.language (List.not_mem_append (hc.not_mem (by decide)) ?_)
    have hblank : c ∉ [' '] := hc.not_mem (by decide)
    exact List.not_mem_cons_of_ne_of_not_mem (by simpa using hblank) (hc.not_mem_marked16 w)
  · exact hc.not_mem_declaration pr.style.language pr.isName s
  · exact h l hl
  · exact hc.not_mem (by cases pr.style.language <;> decide)

/-- **No line of a listing has a break in it.** -/
theorem not_mem_lines (w : UInt64) (s : TableSet) : ∀ l ∈ pr.lines w s, c ∉ l :=
  pr.not_mem_linesWith hc w s (pr.not_mem_bodyLines hc s)

end IsBreak

/-- **The lines of the text** are the lines that were printed. -/
theorem lines_render (w : UInt64) (s : TableSet) :
    Text.lines (pr.render w s).toList = pr.lines w s := by
  rw [render, String.toList_ofList]
  exact lines_unlines fun l hl ↦
    isLine_of_forall_isBreak fun c hc ↦ pr.not_mem_lines hc w s l hl

/-! ## Around the first equals sign -/

/-- The text of a listing up to its first equals sign. -/
def untilArray (w : UInt64) (s : TableSet) : List Char :=
  unlines (pr.commentLines w) ++ (pr.style.language.heading pr.style.name.toList s ++ [' '])

/-- The text behind it, with any lines in the array. -/
def arrayWith (body : List (List Char)) : List Char :=
  [' ', pr.style.language.opening] ++ '\n' :: (unlines body ++
    ([pr.style.language.closing, ';'] ++ ['\n']))

/-- The text behind it. -/
def arrayText (s : TableSet) : List Char := pr.arrayWith (pr.bodyLines s)

/-- No equals sign stands in the comments of a listing. -/
theorem not_mem_commentLines (w : UInt64) : '=' ∉ unlines (pr.commentLines w) := by
  have hword : '=' ∉ ' ' :: marked16 w := by
    refine List.not_mem_cons_of_ne_of_not_mem (by decide) fun hmem ↦ ?_
    exact ne_of_isIdentifierPart (isIdentifierPart_of_mem_marked16 hmem) rfl rfl
  have hwarning : '=' ∉ pr.style.language.comment warning.toList :=
    pr.style.language.not_mem_comment (by decide) (by decide)
  have hrecorded :
      '=' ∉ pr.style.language.comment (polynomialLabel.toList ++ ' ' :: marked16 w) :=
    pr.style.language.not_mem_comment (by decide) (List.not_mem_append (by decide) hword)
  simp [commentLines, unlines, hwarning, hrecorded]

theorem not_mem_untilArray (w : UInt64) (s : TableSet) : '=' ∉ pr.untilArray w s :=
  List.not_mem_append (pr.not_mem_commentLines w) (pr.not_mem_heading s)

/-- **A listing is cut at its first equals sign.** -/
theorem unlines_linesWith (w : UInt64) (s : TableSet) (body : List (List Char)) :
    unlines (pr.linesWith w s body) = pr.untilArray w s ++ '=' :: pr.arrayWith body := by
  rw [linesWith, unlines_append, unlines_append, unlines_cons, Language.declaration_eq]
  simp [unlines, untilArray, arrayWith]

theorem toList_render (w : UInt64) (s : TableSet) :
    (pr.render w s).toList = pr.untilArray w s ++ '=' :: pr.arrayText s := by
  rw [render, String.toList_ofList, lines_eq, unlines_linesWith, arrayText]

end Printer

end CrcTables
