import CrcTables.Proofs.Listing.Endings

/-!
# Lines in front of a text only shift line numbers

A line that neither has a label nor starts like a declaration is only counted.  So a text that comes
behind such lines is read as it is on its own, and an error in it is reported as many lines further
down.  The one error that is not found on a line, that of a text without a declaration, is reported
for its last line; only the empty text has none, and it is reported for line one.

## What is here

* `Flaw.later` — a flaw some lines further down.
* `Listing.finish_add_line`, `Listing.readFrom_add_line` — what is read from lines that are counted
  from a later number.
* `Listing.IsFiller` — a line that is only counted.
* `Listing.parse_unlines_append` — a text behind such lines.
-/

set_option autoImplicit false
namespace CrcTables

/-- The same flaw, some lines further down. -/
def Flaw.later (k : Nat) (f : Flaw) : Flaw := { f with line := f.line + k }

namespace Listing

open Text

/-! ## Counting from a later number -/

section Later

variable (line k : Nat)

theorem scanLine_add_line (l : List Char) (found : Array UInt64) :
    scanLine (line + k) l found = (scanLine line l found).mapError (Flaw.later k) := by
  rw [scanLine, scanLine]
  cases Literal.scan l found <;> rfl

/-- The entries of an array that is further down are the same, and the last line is further down. -/
theorem readEntries_add_line (found : Array UInt64) (ls : List (List Char)) :
    readEntries (line + k) found ls =
      ((readEntries line found ls).map fun (last, words) ↦ (last + k, words)).mapError
        (Flaw.later k) := by
  induction ls generalizing line found with
  | nil => rfl
  | cons l ls ih =>
    rw [readEntries, readEntries, Nat.add_right_comm, scanLine_add_line]
    cases scanLine (line + 1) l found with
    | error f => rfl
    | ok words =>
      simp only [Except.mapError]
      cases closes l with
      | true => rfl
      | false => exact ih (line + 1) words

/-- **An array that is further down** is read in the same way, and its flaws are further down. -/
theorem finish_add_line (recorded? : Option UInt64) (d : Declaration) (tail : List Char)
    (following : List (List Char)) :
    finish ⟨recorded?, line + k, d, tail, following⟩ =
      (finish ⟨recorded?, line, d, tail, following⟩).mapError (Flaw.later k) := by
  simp only [finish, scanLine_add_line, readEntries_add_line]
  cases Declaration.layout d.dimensions with
  | error cause => rfl
  | ok layout =>
    cases scanLine line tail #[] with
    | error f => rfl
    | ok first =>
      simp only [Except.mapError]
      cases readEntries line first following with
      | error f => rfl
      | ok lastWords =>
        simp only [Except.map]
        cases fit? lastWords.2 layout <;> rfl

/-- **Lines that are counted from a later number** are read in the same way, and their flaws are
further down.  Without lines, that takes a line before them: then the flaw is reported there. -/
theorem readFrom_add_line (recorded? : Option UInt64) {ls : List (List Char)}
    (h : 1 < line + ls.length) :
    readFrom recorded? (line + k) ls =
      (readFrom recorded? line ls).mapError (Flaw.later k) := by
  induction ls generalizing recorded? line with
  | nil =>
    have hlast : max (line + k - 1) 1 = max (line - 1) 1 + k := by
      simp only [List.length_nil] at h
      omega
    simp only [readFrom, openingOf, Except.bind, Except.mapError, Flaw.later, hlast]
  | cons l ls ih =>
    rw [readFrom_cons, readFrom_cons]
    cases searchStep l with
    | goOn found? =>
      have hnext : 1 < line + 1 + ls.length := by
        rw [List.length_cons] at h
        omega
      show readFrom (found?.or recorded?) (line + k + 1) ls = _
      rw [Nat.add_right_comm]
      exact ih (line + 1) (found?.or recorded?) hnext
    | fail cause => rfl
    | declare d tail => exact finish_add_line line k recorded? d tail ls

end Later

/-! ## Lines that are only counted -/

/-- A line that neither has a label nor starts, behind blanks, like a declaration. -/
structure IsFiller (l : List Char) : Prop where
  /-- It is one line. -/
  feed : '\n' ∉ l
  /-- It has no label. -/
  label : ¬ polynomialLabel.toList <:+: l
  /-- It does not start like a declaration. -/
  start : ¬ "static ".toList <+: trimStart l
  /-- Nor does it start like a public one. -/
  publicStart : ¬ "pub static ".toList <+: trimStart l

/-- Such a line lets the search go on and records nothing. -/
theorem IsFiller.searchStep_eq {l : List Char} (h : IsFiller l) : searchStep l = .goOn none := by
  have hlabel : after? polynomialLabel.toList l = none := after?_label_eq_none_iff.2 h.label
  have hstart : startsDeclaration l = false := by
    rw [← Bool.not_eq_true, startsDeclaration_eq_true_iff, not_or]
    exact ⟨h.start, h.publicStart⟩
  simp only [searchStep, hlabel, hstart, Bool.false_eq_true, if_false]

/-- So does what is left of it when a carriage return at its end belongs to the ending. -/
theorem IsFiller.searchStep_dropReturn {l : List Char} (h : IsFiller l) :
    searchStep (dropReturn l) = .goOn none := by
  have hstep := searchStep_of_returned (returned_dropReturn l)
  rw [h.searchStep_eq] at hstep
  generalize searchStep (dropReturn l) = step at hstep
  cases hstep
  rfl

/-- **Lines in front only shift line numbers.**  Behind lines that are only counted, a text that is
not empty is read as the same listing, and it has an error exactly if it has this error on its own,
as many lines further up. -/
theorem parse_unlines_append {front : List (List Char)} (hfront : ∀ l ∈ front, IsFiller l)
    {text : String} (hne : text ≠ "") :
    (∀ l, parse (String.ofList (unlines front) ++ text) = .ok l ↔ parse text = .ok l) ∧
      ∀ line reason, parse text = .error (.unreadable line reason) ↔
        parse (String.ofList (unlines front) ++ text) =
          .error (.unreadable (line + front.length) reason) := by
  have hlines : lines (String.ofList (unlines front) ++ text).toList =
      front.map dropReturn ++ lines text.toList := by
    rw [String.toList_append, String.toList_ofList]
    exact lines_unlines_append_of_feed (fun l hl ↦ (hfront l hl).feed) text.toList
  have hskipped : ∀ l ∈ front.map dropReturn, searchStep l = .goOn none := by
    rw [List.forall_mem_map]
    exact fun l hl ↦ (hfront l hl).searchStep_dropReturn
  have hsome : 1 < 1 + (lines text.toList).length := by
    have hpos := List.length_pos_of_ne_nil (lines_ne_nil (mt String.toList_eq_nil_iff.1 hne))
    omega
  have hread : readFrom none 1 (lines (String.ofList (unlines front) ++ text).toList) =
      (readFrom none 1 (lines text.toList)).mapError (Flaw.later front.length) := by
    rw [hlines, readFrom_append_of_goOn hskipped, List.length_map,
      readFrom_add_line 1 front.length none hsome]
  rw [parse_eq_readFrom, parse_eq_readFrom, hread]
  cases readFrom none 1 (lines text.toList) with
  | ok l => simp [Except.mapError]
  | error f => simp [Except.mapError, Flaw.later, Flaw.toError]

/-- A text with a flaw behind two lines, the first of which ends with a carriage return. -/
theorem parse_unlines_append_two :
    (∀ l ∈ ["// a\r".toList, []], IsFiller l) ∧ "static x" ≠ "" ∧
      parse "static x" = .error (.unreadable 1 "declaration has no initializer") ∧
      parse "// a\r\n\nstatic x" = .error (.unreadable 3 "declaration has no initializer") := by
  have hcomment : IsFiller "// a\r".toList := by
    refine ⟨?_, ?_, ?_, ?_⟩ <;> decide +kernel
  have hempty : IsFiller [] := by
    refine ⟨?_, ?_, ?_, ?_⟩ <;> decide +kernel
  have hfront : ∀ l ∈ ["// a\r".toList, []], IsFiller l :=
    List.forall_mem_cons.2 ⟨hcomment, List.forall_mem_singleton.2 hempty⟩
  have hne : "static x" ≠ "" := by decide
  have hfails : parse "static x" =
      .error (.unreadable 1 "declaration has no initializer") := by decide
  have htext : String.ofList (unlines ["// a\r".toList, []]) ++ "static x" =
      "// a\r\n\nstatic x" := rfl
  have hbehind := ((parse_unlines_append hfront hne).2 1 _).1 hfails
  rw [htext] at hbehind
  exact ⟨hfront, hne, hfails, hbehind⟩

end Listing
end CrcTables
