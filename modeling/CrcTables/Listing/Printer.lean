import CrcTables.Listing.Style
import CrcTables.Text.Lines

/-!
# Writing a listing

A listing starts with two comments, a warning and the polynomial of the tables.  The declaration
follows, then the entries of each table in rows, then a line that closes the array.  In a nested
set each table stands between a line that opens it and a line that closes it.  A comma stands behind
each row but the last of its table, which is known by its number: the style says how many rows a
table takes.

## What is here

* `Printer` — a style that was accepted.
* `rowEnd`, `withCommas` — what stands behind a row, and rows with their ends.
* `Printer.rowLines` — the entries of a table in rows.
* `Printer.lines`, `Printer.render` — the listing as lines and as a text.
* `fill` — bytes that go into a place of limited size.
-/

set_option autoImplicit false
namespace CrcTables

/-- The first comment of a listing. -/
def warning : String := "This file is generated automatically, don't change it."

/-- What stands before the polynomial in the second comment. -/
def polynomialLabel : String := "Reversed polynomial:"

/-- What stands behind row `r` if row `last` is the last one: a comma, but nothing behind the
last. -/
def rowEnd (last r : Nat) : List Char := if r = last then [] else [',']

/-- At most a comma stands behind a row. -/
theorem rowEnd_eq_or (last r : Nat) : rowEnd last r = [] ∨ rowEnd last r = [','] :=
  if h : r = last then .inl (if_pos h) else .inr (if_neg h)

/-- Rows, counted from zero, with what stands behind each; row `last` is taken for the last one,
however many there are. -/
def withCommas (last : Nat) (rowTexts : List (List Char)) : List (List Char) :=
  rowTexts.mapIdx fun r text ↦ text ++ rowEnd last r

/-- Texts with a comma and a space between any two. -/
def commaSeparated (texts : List (List Char)) : List Char :=
  [',', ' '].intercalate texts

/-- A style that was accepted. -/
structure Printer where
  /-- The style. -/
  style : Style
  /-- Listings can be written in the style. -/
  accepted : style.Accepted

namespace Printer

/-- The printer of a style, if the style is accepted. -/
def ofStyle (s : Style) : Except Error Printer :=
  match h : s.check with
  | .error e => .error e
  | .ok () => .ok ⟨s, s.check_eq_ok_iff.1 h⟩

/-- The indentation of a number of levels. -/
def indentation (pr : Printer) (depth : Nat) : List Char :=
  (List.replicate depth pr.style.language.indent).flatten

/-- The rows of a table from the texts of its entries, indented.  The last row is the one that the
style counts as such. -/
def rowLines (pr : Printer) (depth : Nat) (entries : List (List Char)) : List (List Char) :=
  withCommas (pr.style.rowsPerTable - 1) <| (rows pr.style.columns entries).map fun row ↦
    pr.indentation depth ++ commaSeparated row

/-- The lines of one table of a nested set, from the texts of its entries. -/
def nestedLines (pr : Printer) (entries : List (List Char)) : List (List Char) :=
  let l := pr.style.language
  (pr.indentation 1 ++ [l.opening]) :: pr.rowLines 2 entries ++
    [pr.indentation 1 ++ [l.closing, ',']]

/-- The texts of the entries of a table. -/
def entryTexts (pr : Printer) (t : Table) : List (List Char) :=
  t.toList.map pr.style.language.literal

/-- The lines between the declaration and the end of the array. -/
def bodyLines (pr : Printer) : TableSet → List (List Char)
  | .single t => pr.rowLines 1 (pr.entryTexts t)
  | .sliced ts => ts.flatMap fun t ↦ pr.nestedLines (pr.entryTexts t)

/-- The comments before the declaration. -/
def commentLines (pr : Printer) (polynomial : UInt64) : List (List Char) :=
  let l := pr.style.language
  [l.comment warning.toList,
    l.comment (polynomialLabel.toList ++ ' ' :: Text.marked16 polynomial)]

/-- The lines of a listing. -/
def lines (pr : Printer) (polynomial : UInt64) (s : TableSet) : List (List Char) :=
  let l := pr.style.language
  pr.commentLines polynomial ++ l.declaration pr.style.name.toList s :: pr.bodyLines s ++
    [[l.closing, ';']]

/-- The listing of some tables, labelled with a reflected polynomial. -/
def render (pr : Printer) (polynomial : UInt64) (s : TableSet) : String :=
  String.ofList (Text.unlines (pr.lines polynomial s))

end Printer

/-- Bytes go into a place for at most `capacity` of them: what got in, and an error if that is not
all. -/
def fill (capacity : Nat) (bytes : List UInt8) : List UInt8 × Except Error Unit :=
  (bytes.take capacity,
    if bytes.length ≤ capacity then .ok ()
    else .error (.inputOutput "failed to write whole buffer"))

end CrcTables
