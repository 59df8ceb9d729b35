import CrcTables.Proofs.Listing.RoundTrip
import CrcTables.Proofs.Listing.SearchStep

/-!
# Listings that were cut short

The first lines of a listing are read like the whole: the comments are passed over, the declaration
says how many entries there must be, and the entries that are left are counted.  Only where the last
of them stands does not matter, so a listing may lose the line that closes its array.

## What is here

* `Text.firstLines` — a text that is cut behind one of its lines.
* `Listing.literalCount` — the literals that are left of an array.
* `Listing.readEntries_take` — the first lines of an array are read up to the last of them.
* `Listing.parse_firstLines` — what is read of the first lines of a listing.
-/

set_option autoImplicit false
namespace CrcTables

open Text

/-- The first lines of a text, each with a line feed at its end. -/
def Text.firstLines (k : Nat) (text : String) : String :=
  String.ofList (unlines ((lines text.toList).take k))

namespace Listing

open Literal

/-- The number of literals on the first `k` lines of a listing, behind the third, which is the
declaration.  They are counted by their marks. -/
def literalCount (k : Nat) (text : String) : Nat :=
  occurrences mark (unlines (((lines text.toList).take k).drop 3))

/-! ## The array -/

/-- Marks are counted line by line. -/
theorem occurrences_unlines {ls : List (List Char)} {wss : List (List UInt64)}
    (h : List.Forall₂ (fun l ws ↦ occurrences mark l = ws.length) ls wss) :
    occurrences mark (unlines ls) = wss.flatten.length := by
  induction h with
  | nil => rfl
  | cons hl _ ih =>
    rw [unlines_cons, occurrences_append_cons mark_ne_nil (by decide), hl, ih, List.flatten_cons,
      List.length_append]

section Array

variable {body : List (List Char)} {wss : List (List UInt64)}
  (hbody : List.Forall₂ Carries body wss) (l : Language)

include hbody

/-- **The first lines of an array** are read up to the last of them, whether it closes the array or
not. -/
theorem readEntries_take (line : Nat) {j : Nat} (hj : j ≤ body.length + 1) :
    readEntries line #[] ((body ++ [[l.closing, ';']]).take j) =
      .ok (line + j, (wss.take j).flatten.toArray) := by
  rcases Nat.le_succ_iff.1 hj with hj | rfl
  · have hread := readEntries_append (List.forall₂_take j hbody) line #[] []
    rw [List.append_nil, List.length_take_of_le hj, Array.empty_append] at hread
    rw [List.take_append_of_le_length hj, hread, readEntries]
  · have hwords : wss.take (body.length + 1) = wss :=
      List.take_of_length_le (hbody.length_eq ▸ Nat.le_succ body.length)
    rw [List.take_of_length_le (by simp), hwords, readEntries_closed l hbody, Nat.add_assoc]

/-- The marks on these lines are as many as the words. -/
theorem occurrences_take (j : Nat) :
    occurrences mark (unlines ((body ++ [[l.closing, ';']]).take j)) =
      (wss.take j).flatten.length := by
  have hclosing : '0' ∉ [l.closing, ';'] := by cases l <;> decide
  have hmarks : List.Forall₂ (fun line ws ↦ occurrences mark line = ws.length)
      (body ++ [[l.closing, ';']]) (wss ++ [[]]) :=
    List.rel_append (hbody.imp fun _ _ h ↦ h.marks)
      (.cons (occurrences_eq_zero List.mem_cons_self hclosing) .nil)
  have hnone : ([[]].take (j - wss.length) : List (List UInt64)).flatten = [] := by
    rw [List.flatten_eq_nil_iff]
    exact fun ws hws ↦ List.mem_singleton.1 (List.mem_of_mem_take hws)
  rw [occurrences_unlines (List.forall₂_take j hmarks), List.take_append, List.flatten_append,
    hnone, List.append_nil]

end Array

/-- Other than as many words as the layout has entries make up no set. -/
theorem fit?_eq_none {words : Array UInt64} {s : TableSet}
    (h : words.size ≠ 256 * s.tables.length) : fit? words s.layout = none := by
  cases s with
  | single t => exact dif_neg h
  | sliced ts => exact dif_neg h

/-- A set that may be read has a table. -/
theorem length_tables_pos {s : TableSet} (h : s.layout.Accepted) : 0 < s.tables.length := by
  cases s with
  | single t => exact Nat.one_pos
  | sliced ts => exact h.1

/-! ## The first lines of a listing -/

section FirstLines

variable (pr : Printer) (w : UInt64) (s : TableSet)

/-- The lines that are left are the first ones. -/
theorem lines_firstLines (k : Nat) :
    lines (firstLines k (pr.render w s)).toList = (pr.lines w s).take k := by
  have hlines : ∀ l ∈ (pr.lines w s).take k, IsLine l := fun l hl ↦
    isLine_of_forall_isBreak fun c hc ↦ pr.not_mem_lines hc w s l (List.mem_of_mem_take hl)
  rw [firstLines, pr.lines_render, String.toList_ofList, lines_unlines hlines]

/-- From the third line on, the declaration is left and some lines of the array. -/
theorem take_lines (j : Nat) :
    (pr.lines w s).take (j + 3) =
      pr.commentLines w ++ pr.style.language.declaration pr.style.name.toList s ::
        (pr.bodyLines s ++ [[pr.style.language.closing, ';']]).take j := rfl

/-- The literals that are left are those of the lines of the array that are left. -/
theorem literalCount_render (j : Nat) :
    literalCount (j + 3) (pr.render w s) = ((pr.lineWords s).take j).flatten.length := by
  rw [literalCount, pr.lines_render, take_lines,
    ← occurrences_take (pr.carries_bodyLines s) pr.style.language]
  rfl

/-- They are no more than the entries of the set. -/
theorem flatten_take_lineWords (j : Nat) : ((pr.lineWords s).take j).flatten <+: s.words := by
  rw [← pr.flatten_lineWords s]
  refine ⟨((pr.lineWords s).drop j).flatten, ?_⟩
  rw [← List.flatten_append, List.take_append_drop]

/-- Up to the third line there is no literal of the array. -/
theorem literalCount_of_le {k : Nat} (hk : k ≤ 3) (text : String) : literalCount k text = 0 := by
  rw [literalCount, List.drop_eq_nil_of_le ((List.length_take_le k _).trans hk)]
  rfl

/-- Before the third line there is no declaration. -/
theorem openingOf_take_commentLines {k : Nat} (hk : k < 3) :
    openingOf none 1 ((pr.commentLines w).take k) = .error ⟨max k 1, .noDeclaration⟩ := by
  obtain rfl | rfl | rfl : k = 0 ∨ k = 1 ∨ k = 2 := by omega
  · rfl
  · have hskip : openingOf none 1 [pr.style.language.comment warning.toList] =
        openingOf none 2 [] :=
      openingOf_cons_skip (after?_warning _) (startsDeclaration_warning _)
    exact hskip.trans rfl
  · have hcomments := openingOf_comments pr w []
    rw [List.append_nil] at hcomments
    exact hcomments.trans rfl

/-- **What is cut before its declaration** has none. -/
theorem parse_firstLines_of_lt {k : Nat} (hk : k < 3) :
    parse (firstLines k (pr.render w s)) =
      .error (.unreadable (max k 1) "missing array declaration") := by
  have hcomments : (pr.lines w s).take k = (pr.commentLines w).take k := by
    rw [Printer.lines, List.append_assoc]
    exact List.take_append_of_le_length (Nat.le_of_lt_succ hk)
  rw [parse_eq_readFrom, lines_firstLines, hcomments, readFrom, openingOf_take_commentLines pr w hk]
  rfl

/-- **What is cut behind its declaration** is read as what its array holds, to its last line. -/
theorem parse_firstLines_of_le (hs : s.layout.Accepted) {j : Nat}
    (hj : j ≤ (pr.bodyLines s).length + 1) :
    parse (firstLines (j + 3) (pr.render w s)) =
      match fit? ((pr.lineWords s).take j).flatten.toArray s.layout with
      | some tables => .ok ⟨pr.style.name, pr.style.language, some w, tables⟩
      | none => .error (.unreadable (j + 3) ("expected " ++ toString (256 * s.tables.length) ++
          " entries, found " ++ toString (literalCount (j + 3) (pr.render w s)))) := by
  have hentries := readEntries_take (pr.carries_bodyLines s) pr.style.language 3 hj
  rw [parse_eq_readFrom, lines_firstLines, take_lines, readFrom, openingOf_declaration,
    Declaration.counted, if_pos (length_tables_lt hs), literalCount_render, Nat.add_comm j]
  have hfinish := finish_of_readEntries pr (some w) hs hentries
  simp only [Except.bind, hfinish, List.size_toArray]
  cases fit? ((pr.lineWords s).take j).flatten.toArray s.layout <;> rfl

end FirstLines

/-- **A listing that is cut behind any of its lines.**  What is cut before its declaration has none;
the last line that is left is reported, or the first if none is left.  What is cut behind it is read
as the whole if all the literals are left, and else it is refused on the last line that is left, with
the number of literals that are. -/
theorem parse_firstLines (style : Style) (h : style.check = .ok ()) (w : UInt64) {s : TableSet}
    (hs : s.layout.Accepted) :
    ∃ pr text, Printer.ofStyle style = .ok pr ∧ pr.render w s = text ∧
      parse text = .ok ⟨style.name, style.language, some w, s⟩ ∧
      ∀ k ≤ (lines text.toList).length,
        literalCount k text ≤ 256 * s.tables.length ∧
        (k < 3 → parse (firstLines k text) =
          .error (.unreadable (max k 1) "missing array declaration")) ∧
        (3 ≤ k → literalCount k text < 256 * s.tables.length →
          parse (firstLines k text) =
            .error (.unreadable k ("expected " ++ toString (256 * s.tables.length) ++
              " entries, found " ++ toString (literalCount k text)))) ∧
        (literalCount k text = 256 * s.tables.length →
          parse (firstLines k text) = parse text) := by
  have haccepted := style.check_eq_ok_iff.1 h
  obtain ⟨pr, rfl⟩ : ∃ pr : Printer, pr.style = style := ⟨⟨style, haccepted⟩, rfl⟩
  have hwhole := parse_render_of_accepted pr w s hs
  have htotal : s.words.length = 256 * s.tables.length := length_flatMap_toList s.tables
  refine ⟨pr, _, Printer.ofStyle_eq_ok haccepted, rfl, hwhole, fun k hk ↦ ?_⟩
  rcases Nat.lt_or_ge k 3 with hlt | hge
  · have hnone := literalCount_of_le (Nat.le_of_lt hlt) (pr.render w s)
    have hsome := length_tables_pos hs
    exact ⟨by omega, fun _ ↦ parse_firstLines_of_lt pr w s hlt, by omega, by omega⟩
  · obtain ⟨j, rfl⟩ := Nat.exists_eq_add_of_le' hge
    have hlength : (pr.lines w s).length = (pr.bodyLines s).length + 4 := by
      simp [Printer.lines, Printer.commentLines]
    have hj : j ≤ (pr.bodyLines s).length + 1 := by
      rw [pr.lines_render, hlength] at hk
      omega
    have hfirst := flatten_take_lineWords pr s j
    have hread := parse_firstLines_of_le pr w s hs hj
    have hcount := literalCount_render pr w s j
    refine ⟨hcount ▸ htotal ▸ hfirst.length_le, by omega, fun _ hless ↦ ?_, fun hall ↦ ?_⟩
    · rw [hread, fit?_eq_none (by rw [List.size_toArray, ← hcount]; exact hless.ne)]
    · have hwords := hfirst.eq_of_length (by rw [← hcount, hall, htotal])
      rw [hread, hwords, fit?_words, hwhole]

/-- A flat table in rows of two that is cut in its rows, and before the line that closes it. -/
theorem parse_firstLines_rows :
    ∃ pr text, Printer.ofStyle ⟨.c, "crc_table", 2⟩ = .ok pr ∧
      pr.render 1 (.single (Vector.replicate 256 0)) = text ∧
      parse (firstLines 50 text) = .error (.unreadable 50
        ("expected " ++ toString 256 ++ " entries, found " ++ toString 94)) ∧
      parse (firstLines 131 text) = parse text := by
  obtain ⟨pr, text, hpr, htext, -, hcut⟩ := parse_firstLines ⟨.c, "crc_table", 2⟩ (by decide) 1
    (s := .single (Vector.replicate 256 0)) trivial
  obtain rfl : pr = ⟨⟨.c, "crc_table", 2⟩, by decide⟩ :=
    Except.ok.inj (hpr.symm.trans (Printer.ofStyle_eq_ok (by decide)))
  -- the lines are counted as they were printed, not as they are found in the text
  have hlines := htext ▸ Printer.lines_render _ _ _
  have hrows : literalCount 50 text = 94 := by
    rw [literalCount, hlines]
    decide +kernel
  have hall : literalCount 131 text = 256 := by
    rw [literalCount, hlines]
    decide +kernel
  obtain ⟨-, -, hless, -⟩ := hcut 50 (by rw [hlines]; decide +kernel)
  obtain ⟨-, -, -, hequal⟩ := hcut 131 (by rw [hlines]; decide +kernel)
  rw [hrows] at hless
  exact ⟨_, _, hpr, htext, hless (by decide) (by decide), hequal hall⟩

end Listing
end CrcTables
