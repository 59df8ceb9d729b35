import CrcTables.Proofs.Listing.Grammar
import CrcTables.Proofs.Listing.SearchStep
import CrcTables.Proofs.Text.Lines

/-!
# Line endings do not matter

A carriage return belongs to the ending of its line only if it stands just before the line feed, so
a text that had some already keeps carriage returns at the ends of its lines when more are put in.
Nothing that is done to a line sees one there: it is blank, no mark that is looked for has it, and
it is no digit.

## What is here

* `Text.crlf` — a text with a carriage return put before each line feed.
* `Text.Returned` — a line, and the line with or without a carriage return behind it;
  `Text.forall₂_lines_crlf` says that these are the lines of the two texts.
* `Listing.searchStep_concat_return`, `Listing.readEntries_of_returned` — what a line does to the
  search for the declaration and to the array, with a carriage return behind it.
* `Listing.readFrom_of_returned` — lines are read alike with and without them.
* `Listing.parse_crlf` — so are texts.
-/

set_option autoImplicit false
namespace CrcTables
namespace Text

/-! ## Carriage returns before line feeds -/

/-- A text with a carriage return put before each line feed. -/
def crlf (s : List Char) : List Char :=
  s.flatMap fun c ↦ if c = '\n' then ['\r', '\n'] else [c]

theorem crlf_of_not_mem {s : List Char} (h : '\n' ∉ s) : crlf s = s := by
  induction s with
  | nil => rfl
  | cons c s ih =>
    rw [List.mem_cons, not_or] at h
    rw [crlf, List.flatMap_cons, if_neg (Ne.symm h.1), ← crlf, ih h.2, List.singleton_append]

theorem crlf_append_cons {l : List Char} (h : '\n' ∉ l) (s : List Char) :
    crlf (l ++ '\n' :: s) = (l ++ ['\r']) ++ '\n' :: crlf s := by
  have hfront : crlf (l ++ '\n' :: s) = crlf l ++ crlf ('\n' :: s) := List.flatMap_append
  have hfeed : crlf ('\n' :: s) = '\r' :: '\n' :: crlf s := rfl
  rw [hfront, hfeed, crlf_of_not_mem h, List.append_assoc, List.singleton_append]

/-- A line, and the line with or without a carriage return behind it. -/
inductive Returned : List Char → List Char → Prop
  /-- The line itself. -/
  | same (l : List Char) : Returned l l
  /-- A carriage return stands behind it. -/
  | behind (l : List Char) : Returned l (l ++ ['\r'])

/-- The ending of a line may have taken a carriage return from it. -/
theorem returned_dropReturn (l : List Char) : Returned (dropReturn l) l := by
  rcases dropReturn_eq_or l with hsame | hbehind
  · rw [hsame]
    exact .same l
  · conv => rhs; rw [hbehind]
    exact .behind (dropReturn l)

/-- **The lines of a text with more carriage returns** are those of the text, with or without one
behind them. -/
theorem forall₂_lines_crlf (s : List Char) : List.Forall₂ Returned (lines s) (lines (crlf s)) := by
  induction s using lines_induction with
  | last l hfeed =>
    rw [crlf_of_not_mem hfeed, List.forall₂_same]
    exact fun l _ ↦ .same l
  | cons l s hfeed ih =>
    have hfeed' : '\n' ∉ l ++ ['\r'] := List.not_mem_append hfeed (by decide)
    have hdrop : dropReturn (l ++ ['\r']) = l := by simp [dropReturn]
    rw [crlf_append_cons hfeed, lines_append_cons hfeed, lines_append_cons hfeed', hdrop]
    exact .cons (returned_dropReturn l) ih

end Text

namespace Listing

open Text Literal

/-! ## A carriage return behind a line -/

section Return

variable (l : List Char)

theorem trim_concat_return : trim (l ++ ['\r']) = trim l :=
  trim_append_right (List.forall_mem_singleton.2 rfl) l

theorem recordedText_concat_return : recordedText (l ++ ['\r']) = recordedText l := by
  rw [recordedText, trim_concat_return, ← recordedText]

theorem closes_concat_return : closes (l ++ ['\r']) = closes l := by
  rw [closes, trim_concat_return, ← closes]

theorem scanLine_concat_return (n : Nat) (found : Array UInt64) :
    scanLine n (l ++ ['\r']) found = scanLine n l found := by
  rw [scanLine, scan_concat rfl (by decide), ← scanLine]

theorem startsDeclaration_concat_return :
    startsDeclaration (l ++ ['\r']) = startsDeclaration l := by
  have hmark : ∀ {mark : List Char}, '\r' ∉ mark →
      (mark <+: trimStart (l ++ ['\r']) ↔ mark <+: trimStart l) := by
    intro mark hreturn
    rcases trimStart_concat_eq_or (c := '\r') rfl l with hkept | hgone
    · rw [hkept, prefix_append_cons_iff_of_not_mem hreturn]
    · rw [hgone]
  rw [Bool.eq_iff_iff, startsDeclaration_eq_true_iff, startsDeclaration_eq_true_iff,
    hmark (by decide), hmark (by decide)]

end Return

/-- Two lines do the same to the search, but for a carriage return behind what they declare. -/
inductive SearchStep.Returned : SearchStep → SearchStep → Prop
  /-- The search goes on behind both. -/
  | goOn (found? : Option UInt64) : Returned (.goOn found?) (.goOn found?)
  /-- Both have the same flaw. -/
  | fail (cause : Flaw.Cause) : Returned (.fail cause) (.fail cause)
  /-- Both declare the array. -/
  | declare (d : Declaration) {tail tail' : List Char} (h : Text.Returned tail tail') :
      Returned (.declare d tail) (.declare d tail')

/-- A step with itself. -/
theorem SearchStep.Returned.refl (step : SearchStep) : Returned step step := by
  cases step with
  | goOn found? => exact .goOn found?
  | fail cause => exact .fail cause
  | declare d tail => exact .declare d (.same tail)

/-- **A carriage return behind a line** makes no difference to the search for the declaration, except
that it is behind what the line declares. -/
theorem searchStep_concat_return (l : List Char) :
    SearchStep.Returned (searchStep l) (searchStep (l ++ ['\r'])) := by
  rw [searchStep, searchStep, after?_concat polynomialLabel_ne_nil (by decide),
    startsDeclaration_concat_return]
  cases after? polynomialLabel.toList l with
  | some tail =>
    simp only [Option.map_some, recordedText_concat_return]
    exact .refl _
  | none =>
    simp only [Option.map_none]
    cases startsDeclaration l with
    | false => exact .refl _
    | true =>
      simp only [if_true]
      by_cases hequals : '=' ∈ l
      · obtain ⟨head, tail, rfl, hhead⟩ := List.eq_append_cons_of_mem hequals
        rw [List.append_assoc, List.cons_append, dropWhile_ne_append_cons hhead,
          dropWhile_ne_append_cons hhead, takeWhile_ne_append_cons hhead,
          takeWhile_ne_append_cons hhead]
        cases Declaration.read head with
        | error cause => exact .fail cause
        | ok d => exact .declare d (.behind tail)
      · have hequals' : '=' ∉ l ++ ['\r'] := List.not_mem_append hequals (by decide)
        rw [dropWhile_ne_eq_nil hequals, dropWhile_ne_eq_nil hequals']
        exact .refl _

theorem searchStep_of_returned {l l' : List Char} (h : Returned l l') :
    SearchStep.Returned (searchStep l) (searchStep l') := by
  cases h with
  | same => exact .refl _
  | behind => exact searchStep_concat_return l

/-! ## Reading -/

section Returned

variable {ls ls' : List (List Char)}

/-- The entries of an array are found with and without carriage returns behind its lines. -/
theorem readEntries_of_returned (h : List.Forall₂ Returned ls ls') (last : Nat)
    (found : Array UInt64) : readEntries last found ls' = readEntries last found ls := by
  induction h generalizing last found with
  | nil => rfl
  | @cons l l' ls ls' hl _ ih =>
    cases hl with
    | same => simp only [readEntries, ih]
    | behind => simp only [readEntries, scanLine_concat_return, closes_concat_return, ih]

/-- So is the array behind a declaration. -/
theorem finish_of_returned (recorded? : Option UInt64) (line : Nat) (d : Declaration)
    {tail tail' : List Char} (htail : Returned tail tail') (h : List.Forall₂ Returned ls ls') :
    finish ⟨recorded?, line, d, tail', ls'⟩ = finish ⟨recorded?, line, d, tail, ls⟩ := by
  cases htail with
  | same => simp only [finish, readEntries_of_returned h]
  | behind => simp only [finish, scanLine_concat_return, readEntries_of_returned h]

/-- **Lines are read alike** with and without carriage returns behind them. -/
theorem readFrom_of_returned (h : List.Forall₂ Returned ls ls') (recorded? : Option UInt64)
    (line : Nat) : readFrom recorded? line ls' = readFrom recorded? line ls := by
  induction h generalizing recorded? line with
  | nil => rfl
  | @cons l l' ls ls' hl hls ih =>
    have hstep := searchStep_of_returned hl
    rw [readFrom_cons, readFrom_cons]
    generalize searchStep l = step, searchStep l' = step' at hstep
    cases hstep with
    | goOn found? => exact ih (found?.or recorded?) (line + 1)
    | fail cause => rfl
    | declare d htail => exact finish_of_returned recorded? line d htail hls

end Returned

/-- **Line endings do not matter.**  With a carriage return put before each of its line feeds, a
text is read as before: as the same listing, or with the same error on the same line, whatever is
wrong with it and however many carriage returns it had already. -/
theorem parse_crlf (text : String) : parse (String.ofList (crlf text.toList)) = parse text := by
  rw [parse_eq_readFrom, parse_eq_readFrom, String.toList_ofList,
    readFrom_of_returned (forall₂_lines_crlf text.toList)]

end Listing
end CrcTables
