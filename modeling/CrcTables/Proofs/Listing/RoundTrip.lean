import CrcTables.Proofs.Listing.Body
import CrcTables.Proofs.Listing.Names
import CrcTables.Proofs.Listing.Opening
import CrcTables.Proofs.Listing.Printed

/-!
# Listings are read back

Reading undoes printing: whatever the style, the recorded polynomial and the entries of the tables
are, the text that is printed says just these.  The tables need not be those of a polynomial.  Only
their number matters: a set that has no tables, or more than may be read, is refused at its
declaration.

## What is here

* `Listing.finish_of_readEntries`, `Listing.finish_of_carries` — the array behind a declaration is
  read as what its lines hold.
* `Listing.readLines_linesWith`, `Listing.readLines_lines` — the lines of a listing are read back.
* `Listing.parse_render` — so is the text of a listing.
-/

set_option autoImplicit false
namespace CrcTables

namespace Listing

open Literal

/-- A line of the opening bracket alone holds nothing. -/
theorem holds_opening (l : Language) : Holds [' ', l.opening] [] :=
  holds_of_not_mem (by cases l <;> decide)

theorem closes_closing (l : Language) : closes [l.closing, ';'] = true := by
  cases l <;> rfl

/-- **The array behind a declaration**, from the entries on its lines: they are as many as declared,
or that is not so on the last line that was read. -/
theorem finish_of_readEntries (pr : Printer) (recorded? : Option UInt64) {line last : Nat}
    {s : TableSet} (h : s.layout.Accepted) {rest : List (List Char)} {words : Array UInt64}
    (hentries : readEntries line #[] rest = .ok (last, words)) :
    finish ⟨recorded?, line, ⟨pr.style.name, pr.style.language, s.dimensions⟩,
        [' ', pr.style.language.opening], rest⟩ =
      match fit? words s.layout with
      | some tables => .ok ⟨pr.style.name, pr.style.language, recorded?, tables⟩
      | none => .error ⟨last, .entryCount (256 * s.tables.length) words.size⟩ := by
  have hfirst : scanLine line [' ', pr.style.language.opening] #[] = .ok #[] :=
    scanLine_of_holds (holds_opening pr.style.language) line #[]
  have hcount : Table.size * s.layout.tableCount = 256 * s.tables.length := by
    rw [s.tableCount_layout, Table.size]
  cases hfit : fit? words s.layout <;>
    simp only [finish, Declaration.layout_dimensions, if_pos h, hfirst, hentries, hfit, hcount]

/-- The lines of an array that is closed are read as what they hold. -/
theorem readEntries_closed (l : Language) {body : List (List Char)} {wss : List (List UInt64)}
    (hbody : List.Forall₂ Carries body wss) (line : Nat) :
    readEntries line #[] (body ++ [[l.closing, ';']]) =
      .ok (line + body.length + 1, wss.flatten.toArray) := by
  have hclosing : Holds [l.closing, ';'] [] := holds_of_not_mem (by cases l <;> decide)
  rw [readEntries_append hbody, readEntries_of_closes hclosing (closes_closing l)]
  simp

/-- They are read as the set that they hold, if the set may be read. -/
theorem finish_of_carries (pr : Printer) (recorded? : Option UInt64) (line : Nat) {s : TableSet}
    (h : s.layout.Accepted) {body : List (List Char)} {wss : List (List UInt64)}
    (hbody : List.Forall₂ Carries body wss) (hwords : wss.flatten = s.words) :
    finish ⟨recorded?, line, ⟨pr.style.name, pr.style.language, s.dimensions⟩,
        [' ', pr.style.language.opening], body ++ [[pr.style.language.closing, ';']]⟩ =
      .ok ⟨pr.style.name, pr.style.language, recorded?, s⟩ := by
  rw [finish_of_readEntries pr recorded? h (readEntries_closed pr.style.language hbody line),
    hwords, fit?_words]

/-- A set that may not be read is refused at its declaration. -/
theorem finish_of_not_accepted {o : Opening} {s : TableSet}
    (hdims : o.declaration.dimensions = s.dimensions) (h : ¬ s.layout.Accepted) :
    finish o = .error ⟨o.line, .tableCount s.tables.length⟩ := by
  rw [finish, hdims, Declaration.layout_dimensions, if_neg h]

/-- Sets with the same dimensions are in the same layout. -/
theorem layout_eq_of_dimensions {s s' : TableSet} (h : s.dimensions = s'.dimensions) :
    s.layout = s'.layout := by
  cases s with
  | single t =>
    cases s' with
    | single t' => rfl
    | sliced ts' => simp [TableSet.dimensions] at h
  | sliced ts =>
    cases s' with
    | single t' => simp [TableSet.dimensions] at h
    | sliced ts' => exact congrArg Layout.sliced (List.cons.inj h).1

/-- A set that may be read has few enough tables to count them. -/
theorem length_tables_lt {s : TableSet} (h : s.layout.Accepted) :
    s.tables.length < Text.countLimit := by
  cases s with
  | single t => exact (by decide : 1 < Text.countLimit)
  | sliced ts => exact Nat.lt_of_le_of_lt h.2 (by decide)

/-- **A listing with other lines in its array** is read as the set that these hold, if it is one of
the same dimensions. -/
theorem readLines_linesWith (pr : Printer) (w : UInt64) {s s' : TableSet}
    (h : s'.layout.Accepted) (hdims : s'.dimensions = s.dimensions) {body : List (List Char)}
    {wss : List (List UInt64)} (hbody : List.Forall₂ Carries body wss)
    (hwords : wss.flatten = s'.words) :
    readLines (pr.linesWith w s body) = .ok ⟨pr.style.name, pr.style.language, some w, s'⟩ := by
  have hlength : s'.tables.length = s.tables.length :=
    TableSet.length_tables_of_layout_eq (layout_eq_of_dimensions hdims)
  rw [readLines, openingOf_linesWith, Declaration.counted, ← hlength, ← hdims,
    if_pos (length_tables_lt h)]
  exact finish_of_carries pr (some w) 3 h hbody hwords

/-- **The lines of a listing are read back.** -/
theorem readLines_lines (pr : Printer) (w : UInt64) (s : TableSet) (h : s.layout.Accepted) :
    readLines (pr.lines w s) = .ok ⟨pr.style.name, pr.style.language, some w, s⟩ :=
  readLines_linesWith pr w h rfl (pr.carries_bodyLines s) (pr.flatten_lineWords s)

theorem readLines_lines_of_not_accepted (pr : Printer) (w : UInt64) (s : TableSet)
    (h : ¬ s.layout.Accepted) :
    ∃ cause, readLines (pr.lines w s) = .error ⟨3, cause⟩ := by
  rw [readLines, Printer.lines_eq, openingOf_linesWith, Declaration.counted]
  by_cases hcount : s.tables.length < Text.countLimit
  · rw [if_pos hcount]
    exact ⟨_, finish_of_not_accepted rfl h⟩
  · rw [if_neg hcount]
    exact ⟨_, rfl⟩

/-- **The text of a listing is read back.** -/
theorem parse_render_of_accepted (pr : Printer) (w : UInt64) (s : TableSet)
    (h : s.layout.Accepted) :
    parse (pr.render w s) = .ok ⟨pr.style.name, pr.style.language, some w, s⟩ := by
  rw [parse, read, pr.lines_render, readLines_lines pr w s h]

theorem parse_render_of_not_accepted (pr : Printer) (w : UInt64) (s : TableSet)
    (h : ¬ s.layout.Accepted) :
    ∃ reason, parse (pr.render w s) = .error (.unreadable 3 reason) := by
  obtain ⟨cause, hcause⟩ := readLines_lines_of_not_accepted pr w s h
  refine ⟨cause.message, ?_⟩
  rw [parse, read, pr.lines_render, hcause]
  rfl

/-- **Reading undoes printing.**  In every style that passes its check, what is printed is read back
as it was: name, language, polynomial and tables, a flat table as a flat one and a set as a set.  A
set that has no tables or more than 64 is refused on the line of its declaration. -/
theorem parse_render (style : Style) (h : style.check = .ok ()) (w : UInt64) :
    ∃ pr, Printer.ofStyle style = .ok pr ∧
      (∀ t, parse (pr.render w (.single t)) =
        .ok ⟨style.name, style.language, some w, .single t⟩) ∧
      (∀ ts, 1 ≤ ts.length → ts.length ≤ 64 → parse (pr.render w (.sliced ts)) =
        .ok ⟨style.name, style.language, some w, .sliced ts⟩) ∧
      ∀ ts, ts.length = 0 ∨ 64 < ts.length →
        ∃ reason, parse (pr.render w (.sliced ts)) = .error (.unreadable 3 reason) := by
  have hprinter := Printer.ofStyle_eq_ok (style.check_eq_ok_iff.1 h)
  refine ⟨_, hprinter, fun t ↦ ?_, fun ts hone hmax ↦ ?_, fun ts hcount ↦ ?_⟩
  · exact parse_render_of_accepted _ w (.single t) trivial
  · exact parse_render_of_accepted _ w (.sliced ts) ⟨hone, hmax⟩
  · refine parse_render_of_not_accepted _ w (.sliced ts) ?_
    rintro ⟨hone, hmax : ts.length ≤ 64⟩
    omega

/-- A name that looks like a literal, in rows longer than a table. -/
theorem parse_render_long_rows :
    Style.check ⟨.rust, "_0x1f", 300⟩ = .ok () ∧
      ∃ pr, Printer.ofStyle ⟨.rust, "_0x1f", 300⟩ = .ok pr ∧
        parse (pr.render 7 (.sliced [Vector.replicate 256 1])) =
          .ok ⟨"_0x1f", .rust, some 7, .sliced [Vector.replicate 256 1]⟩ ∧
        ∃ reason, parse (pr.render 7 (.sliced [])) = .error (.unreadable 3 reason) := by
  have hcheck : Style.check ⟨.rust, "_0x1f", 300⟩ = .ok () := by decide
  obtain ⟨pr, hpr, -, hread, hrefused⟩ := parse_render ⟨.rust, "_0x1f", 300⟩ hcheck 7
  exact ⟨hcheck, pr, hpr, hread _ (by decide) (by decide), hrefused _ (.inl rfl)⟩

end Listing
end CrcTables
