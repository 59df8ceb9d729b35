import CrcTables.Listing.Reader
import CrcTables.Proofs.Generator.Spelling
import CrcTables.Proofs.Listing.Heading

/-!
# The opening of a listing is read back

A listing opens with two comments and a declaration.  The label in the second comment is found, and
nothing else is taken for it, whatever the name of the array is; the word behind it is read back.

## What is here

* `Listing.openingOf_cons_skip`, `Listing.openingOf_cons_label`,
  `Listing.openingOf_cons_declaration` — the three things that a line can be before the body.
* `Listing.recordedText_label` — the word behind a label, without the end of its comment.
* `Printer.linesWith` — a listing with any lines in its array.
* `Listing.openingOf_comments` — the search goes on behind the comments.
* `Listing.openingOf_commentLines`, `Listing.openingOf_declaration`, `Listing.openingOf_linesWith` —
  it finds the declaration on the third line.
-/

set_option autoImplicit false
namespace CrcTables

open Text

/-! ## Labels -/

theorem isBlank_of_mem_marked16 {w : UInt64} : ∀ c ∈ marked16 w, isBlank c = false :=
  fun _ hc ↦ isBlank_of_isIdentifierPart (isIdentifierPart_of_mem_marked16 hc)

namespace Listing

/-- What stands behind the text of a comment. -/
def commentEnd : Language → List Char
  | .c => [' ', '*', '/']
  | .rust => []

/-- The label of a comment is found, and what follows is the rest of the comment. -/
theorem after?_comment (l : Language) (text : List Char) :
    after? polynomialLabel.toList (l.comment (polynomialLabel.toList ++ text)) =
      some (text ++ commentEnd l) := by
  have hlabel : polynomialLabel.toList = 'R' :: "eversed polynomial:".toList := by decide
  have hne : polynomialLabel.toList ≠ [] := by decide
  cases l with
  | c =>
    have hcomment : Language.c.comment (polynomialLabel.toList ++ text) =
        "/* ".toList ++ (polynomialLabel.toList ++ (text ++ commentEnd .c)) := by
      simp only [Language.comment, commentEnd, List.append_assoc, String.reduceToList]
    rw [hcomment, hlabel, after?_append_of_not_mem (by decide), ← hlabel, after?_append hne]
  | rust =>
    rw [Language.comment, commentEnd, hlabel, after?_append_of_not_mem (by decide), ← hlabel,
      after?_append hne, List.append_nil]

/-- **The recorded polynomial** is what was written behind the label. -/
theorem recordedText_label (l : Language) (w : UInt64) :
    recordedText (' ' :: (marked16 w ++ commentEnd l)) = marked16 w := by
  have hword : trim (marked16 w) = marked16 w := trim_word isBlank_of_mem_marked16
  have hfront : trim (' ' :: (marked16 w ++ commentEnd l)) = trim (marked16 w ++ commentEnd l) :=
    trim_append_left isBlank_of_mem_blank (marked16 w ++ commentEnd l)
  rw [recordedText, hfront]
  cases l with
  | c =>
    have hself : trim (marked16 w ++ [' '] ++ ['*', '/']) = marked16 w ++ [' '] ++ ['*', '/'] := by
      refine trim_eq_self (fun c hc ↦ ?_) fun c hc ↦ ?_
      · obtain rfl : '0' = c := Option.some.inj hc
        rfl
      · rw [List.getLast?_append] at hc
        obtain rfl : '/' = c := Option.some.inj hc
        rfl
    have hstrip : stripCommentEnds (marked16 w ++ [' ']) = marked16 w ++ [' '] := by
      refine stripCommentEnds_eq_self fun c hc ↦ ?_
      rw [List.getLast?_append] at hc
      obtain rfl : ' ' = c := Option.some.inj hc
      decide
    have hcut : marked16 w ++ commentEnd .c = marked16 w ++ [' '] ++ ['*', '/'] := by
      rw [commentEnd, List.append_assoc]
      rfl
    rw [hcut, hself, stripCommentEnds_append, hstrip, trim_append_right isBlank_of_mem_blank, hword]
  | rust =>
    have hstrip : stripCommentEnds (marked16 w) = marked16 w := by
      refine stripCommentEnds_eq_self fun c hc ↦ ?_
      exact ne_of_isIdentifierPart
        (isIdentifierPart_of_mem_marked16 (List.mem_of_getLast? hc)) rfl
    rw [commentEnd, List.append_nil, hword, hstrip, hword]

/-! ## The search for the declaration -/

section Lines

variable {recorded? : Option UInt64} {line : Nat} {l : List Char} {rest : List (List Char)}

theorem openingOf_cons_skip (hlabel : after? polynomialLabel.toList l = none)
    (hstart : startsDeclaration l = false) :
    openingOf recorded? line (l :: rest) = openingOf recorded? (line + 1) rest := by
  rw [openingOf, hlabel]
  simp only [hstart, Bool.false_eq_true, if_false]

theorem openingOf_cons_label {tail : List Char} {p : UInt64}
    (hlabel : after? polynomialLabel.toList l = some tail)
    (hread : Generator.read? (recordedText tail) = some p) :
    openingOf recorded? line (l :: rest) = openingOf (some p) (line + 1) rest := by
  rw [openingOf, hlabel]
  simp only [hread]

/-- The line of the declaration is cut at its first equals sign. -/
theorem openingOf_cons_declaration {before tail : List Char}
    (hlabel : after? polynomialLabel.toList (before ++ '=' :: tail) = none)
    (hstart : startsDeclaration (before ++ '=' :: tail) = true) (heq : '=' ∉ before) :
    openingOf recorded? line ((before ++ '=' :: tail) :: rest) =
      match Declaration.read before with
      | .error cause => .error ⟨line, cause⟩
      | .ok d => .ok ⟨recorded?, line, d, tail, rest⟩ := by
  rw [openingOf, hlabel]
  cases hread : Declaration.read before with
  | error cause =>
    simp only [hstart, if_true, dropWhile_ne_append_cons heq, takeWhile_ne_append_cons heq, hread]
  | ok d =>
    simp only [hstart, if_true, dropWhile_ne_append_cons heq, takeWhile_ne_append_cons heq, hread]

end Lines

/-! ## The opening that is printed -/

/-- No label is found in the warning. -/
theorem after?_warning (l : Language) :
    after? polynomialLabel.toList (l.comment warning.toList) = none := by
  cases l <;> rfl

theorem startsDeclaration_warning (l : Language) :
    startsDeclaration (l.comment warning.toList) = false := by
  cases l <;> rfl

/-- **No label is found in a declaration**, whatever its name is: the label has a blank in it, and
behind a name there is no blank but another mark. -/
theorem after?_heading (l : Language) {name : List Char} (h : IsName name) (s : TableSet)
    {tail : List Char} (htail : 'R' ∉ tail) :
    after? polynomialLabel.toList ((l.heading name s ++ [' ']) ++ '=' :: tail) = none := by
  have hlabel : polynomialLabel.toList = "Reversed".toList ++ ' ' :: "polynomial:".toList := by
    decide
  have hfirst : polynomialLabel.toList = 'R' :: "eversed polynomial:".toList := by decide
  have hstorage : 'R' ∉ l.storage.toList ++ [' '] := by cases l <;> decide
  have hmark : l.mark ∉ "Reversed".toList ∧ ' ' ≠ l.mark := by cases l <;> decide
  have hshape : 'R' ∉ l.mark :: (l.shape s ++ ' ' :: '=' :: tail) := by
    refine List.not_mem_cons_of_ne_of_not_mem (by cases l <;> decide) ?_
    refine List.not_mem_append (Language.not_mem_shape rfl l s) ?_
    simpa using htail
  have hparts : (l.heading name s ++ [' ']) ++ '=' :: tail = (l.storage.toList ++ [' ']) ++
      (name ++ l.mark :: (l.shape s ++ ' ' :: '=' :: tail)) := by
    rw [Language.heading_eq]
    simp only [List.append_assoc, List.cons_append, List.nil_append]
  rw [hparts, hfirst, after?_append_of_not_mem hstorage, ← hfirst, hlabel,
    after?_append_cons hmark.2 hmark.1 (h.not_mem rfl), ← hlabel, hfirst,
    ← List.append_nil (l.mark :: _), after?_append_of_not_mem hshape]
  rfl

theorem startsDeclaration_heading (l : Language) (name : List Char) (s : TableSet)
    (tail : List Char) : startsDeclaration ((l.heading name s ++ [' ']) ++ '=' :: tail) = true := by
  rw [Language.heading_eq]
  cases l <;> rfl

end Listing

/-! ## Listings with other lines in the array -/

/-- The lines of a listing of a set, with any lines in the place of the array's own. -/
def Printer.linesWith (pr : Printer) (polynomial : UInt64) (s : TableSet)
    (body : List (List Char)) : List (List Char) :=
  let l := pr.style.language
  pr.commentLines polynomial ++ l.declaration pr.style.name.toList s :: body ++ [[l.closing, ';']]

theorem Printer.lines_eq (pr : Printer) (w : UInt64) (s : TableSet) :
    pr.lines w s = pr.linesWith w s (pr.bodyLines s) := rfl

theorem Language.declaration_eq (l : Language) (name : List Char) (s : TableSet) :
    l.declaration name s = (l.heading name s ++ [' ']) ++ '=' :: [' ', l.opening] := by
  rw [Language.declaration, List.append_assoc]
  rfl

/-- No equals sign stands in a declaration before the one behind its heading. -/
theorem Printer.not_mem_heading (pr : Printer) (s : TableSet) :
    '=' ∉ pr.style.language.heading pr.style.name.toList s ++ [' '] := by
  rw [Language.heading_eq]
  refine List.not_mem_append (List.not_mem_append ?_ ?_) (by decide)
  · exact Language.not_mem_before pr.isName rfl (by decide) pr.style.language
  · exact List.not_mem_cons_of_ne_of_not_mem (by cases pr.style.language <;> decide)
      (Language.not_mem_shape rfl pr.style.language s)

namespace Listing

/-- The comments of a listing record its polynomial, whatever follows them. -/
theorem openingOf_comments (pr : Printer) (w : UInt64) (rest : List (List Char)) :
    openingOf none 1 (pr.commentLines w ++ rest) = openingOf (some w) 3 rest := by
  have hcomments : pr.commentLines w = [pr.style.language.comment warning.toList,
      pr.style.language.comment (polynomialLabel.toList ++ ' ' :: marked16 w)] := rfl
  rw [hcomments]
  generalize pr.style.language = l
  have hread : Generator.read? (recordedText (' ' :: marked16 w ++ commentEnd l)) = some w := by
    rw [List.cons_append, recordedText_label, Generator.read?_marked16]
  simp only [List.cons_append, List.nil_append]
  rw [openingOf_cons_skip (after?_warning l) (startsDeclaration_warning l),
    openingOf_cons_label (after?_comment l _) hread]

/-- **The declaration is found on the third line**, behind the comments, whatever follows its equals
sign, as long as that could not be taken for a label. -/
theorem openingOf_commentLines (pr : Printer) (w : UInt64) (s : TableSet) {tail : List Char}
    (htail : 'R' ∉ tail) (rest : List (List Char)) :
    openingOf none 1 (pr.commentLines w ++
        ((pr.style.language.heading pr.style.name.toList s ++ [' ']) ++ '=' :: tail) :: rest) =
      match Declaration.counted s.tables.length
        (⟨pr.style.name, pr.style.language, s.dimensions⟩ : Declaration) with
      | .error cause => .error ⟨3, cause⟩
      | .ok d => .ok ⟨some w, 3, d, tail, rest⟩ := by
  have hname := pr.isName
  rw [openingOf_comments,
    openingOf_cons_declaration (after?_heading pr.style.language hname s htail)
      (startsDeclaration_heading pr.style.language _ s tail) (pr.not_mem_heading s),
    Declaration.read_heading pr.style.language hname, String.ofList_toList]

/-- It is found whatever lines follow it. -/
theorem openingOf_declaration (pr : Printer) (w : UInt64) (s : TableSet)
    (rest : List (List Char)) :
    openingOf none 1 (pr.commentLines w ++
        pr.style.language.declaration pr.style.name.toList s :: rest) =
      match Declaration.counted s.tables.length
        (⟨pr.style.name, pr.style.language, s.dimensions⟩ : Declaration) with
      | .error cause => .error ⟨3, cause⟩
      | .ok d => .ok ⟨some w, 3, d, [' ', pr.style.language.opening], rest⟩ := by
  have htail : 'R' ∉ [' ', pr.style.language.opening] := by cases pr.style.language <;> decide
  rw [Language.declaration_eq, openingOf_commentLines pr w s htail]

/-- It is found whatever the array holds. -/
theorem openingOf_linesWith (pr : Printer) (w : UInt64) (s : TableSet) (body : List (List Char)) :
    openingOf none 1 (pr.linesWith w s body) =
      match Declaration.counted s.tables.length
        (⟨pr.style.name, pr.style.language, s.dimensions⟩ : Declaration) with
      | .error cause => .error ⟨3, cause⟩
      | .ok d => .ok ⟨some w, 3, d, [' ', pr.style.language.opening],
          body ++ [[pr.style.language.closing, ';']]⟩ := by
  rw [← openingOf_declaration, Printer.linesWith, List.append_assoc, List.cons_append]

end Listing
end CrcTables
