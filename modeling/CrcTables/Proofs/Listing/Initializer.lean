import CrcTables.Proofs.Listing.Arrays
import CrcTables.Proofs.Listing.RoundTrip
import Mathlib.Algebra.Order.Floor.Div

/-!
# A listing is a well-formed initializer

Where the commas of a listing stand is decided by the number of a row, and which number is the last
by a quotient that is rounded up; that has to agree with the rows that are cut at every number of
columns.  A comma that is missing or doubled would make a table that still compiles.

## What is here

* `Block` — the lines of one table: rows that are full and end with a comma, then a last one without
  a comma.
* `Block.length_lines` — how many lines these are.
* `Printer.block`, `Printer.bodyLines_eq_arrayLines` — the lines of a listing are those of a block
  for each table.
* `Listing.render_initializer` — the array of a listing, as a text and line by line.
-/

set_option autoImplicit false
namespace CrcTables

open Text

/-! ## The lines of a table -/

/-- A line and the words whose literals are on it. -/
structure Row where
  /-- The line. -/
  line : List Char
  /-- The words. -/
  words : List UInt64

/-- The lines of a table: full rows that end with a comma, then a last row that does not. -/
structure Block (l : Language) (columns : Nat) where
  /-- The rows before the last one. -/
  full : List Row
  /-- The last row. -/
  last : Row
  /-- Full rows have as many words as there are columns. -/
  length_full : ∀ row ∈ full, row.words.length = columns
  /-- The last row has a word, and no more than there are columns. -/
  length_last : 1 ≤ last.words.length ∧ last.words.length ≤ columns
  /-- On a full row there are its literals, with a comma behind each. -/
  dense_full : ∀ row ∈ full, dense row.line = l.entriesText row.words ++ [',']
  /-- On the last row there are its literals, with commas between them. -/
  dense_last : dense last.line = l.entriesText last.words
  /-- Full rows end with the comma. -/
  getLast_full : ∀ row ∈ full, row.line.getLast? = some ','
  /-- The last row does not end with a comma. -/
  getLast_last : last.line.getLast? ≠ some ','

namespace Block

variable {l : Language} {columns : Nat} (b : Block l columns)

/-- The lines of the rows. -/
def lines : List (List Char) := b.full.map Row.line ++ [b.last.line]

/-- The words of the rows. -/
def words : List UInt64 := b.full.flatMap Row.words ++ b.last.words

/-- **The number of lines** is that of the words by that of the columns, rounded up. -/
theorem length_lines : b.lines.length = b.words.length ⌈/⌉ columns := by
  have hfull : (b.full.flatMap Row.words).length = b.full.length * columns := by
    rw [List.length_flatMap, List.map_eq_replicate_iff.2 b.length_full, List.sum_replicate_nat]
  obtain ⟨hone, hmax⟩ := b.length_last
  rw [Nat.ceilDiv_eq_add_pred_div, words, List.length_append, hfull, lines, List.length_append,
    List.length_map, List.length_singleton]
  -- the last row takes the quotient one up, because it is neither empty nor longer than a full one
  symm
  refine Nat.div_eq_of_lt_le ?_ ?_
  · rw [Nat.add_mul]
    omega
  · rw [Nat.add_mul, Nat.add_mul]
    omega

end Block

/-- The rows that are counted for a table are a quotient that is rounded up. -/
theorem rowCount_eq_ceilDiv {k : Nat} (hk : k ≠ 0) (n : Nat) : rowCount k n = n ⌈/⌉ k := by
  rw [rowCount, Nat.ceilDiv_eq_add_pred_div]
  congr 1
  omega

/-- Entries with commas between them end with the literal of one. -/
theorem exists_commaSeparated_eq (l : Language) {ws : List UInt64} (hne : ws ≠ []) :
    ∃ front w, commaSeparated (ws.map l.literal) = front ++ l.literal w := by
  induction ws with
  | nil => contradiction
  | cons w ws ih =>
    by_cases hws : ws = []
    · exact ⟨[], w, by simp [commaSeparated, hws]⟩
    · obtain ⟨front, v, hv⟩ := ih hws
      refine ⟨l.literal w ++ ([',', ' '] ++ front), v, ?_⟩
      rw [List.map_cons, commaSeparated_cons _ (by simpa using hws), hv]
      simp only [List.append_assoc]

namespace Printer

variable (pr : Printer)

theorem getLast?_rowLine (depth : Nat) {ws : List UInt64} (hne : ws ≠ []) :
    (pr.rowLine depth ws).getLast? ≠ some ',' := by
  obtain ⟨front, w, hw⟩ := exists_commaSeparated_eq pr.style.language hne
  have hliteral : pr.style.language.literal w ≠ [] := List.cons_ne_nil _ _
  rw [rowLine, hw, ← List.append_assoc, List.getLast?_append_of_ne_nil _ hliteral]
  intro hlast
  have hletter : ¬ (isHexDigit ',' = true ∨ ',' ∈ ['x', 'u', 'l']) := by decide
  exact hletter (Language.isHexDigit_or_mem_literal (List.mem_of_getLast? hlast))

theorem rows_ne_nil (t : Table) : rows pr.style.columns t.toList ≠ [] :=
  List.ne_nil_of_length_eq_add_one (pr.length_rows_toList t)

/-- **The rows of a table.** -/
def block (depth : Nat) (t : Table) : Block pr.style.language pr.style.columns :=
  let rs := rows pr.style.columns t.toList
  have hlast := ne_nil_of_mem_rows pr.columns_ne_zero (List.getLast_mem (pr.rows_ne_nil t))
  { full := rs.dropLast.map fun row ↦ ⟨pr.rowLine depth row ++ [','], row⟩
    last := ⟨pr.rowLine depth (rs.getLast (pr.rows_ne_nil t)), rs.getLast (pr.rows_ne_nil t)⟩
    length_full := by
      intro row hrow
      obtain ⟨ws, hws, rfl⟩ := List.mem_map.1 hrow
      exact length_of_mem_dropLast_rows pr.columns_ne_zero hws
    length_last := ⟨List.length_pos_of_ne_nil hlast, length_le_of_mem_rows (List.getLast_mem _)⟩
    dense_full := by
      intro row hrow
      obtain ⟨ws, -, rfl⟩ := List.mem_map.1 hrow
      have htext := (pr.laidOut_rowLine depth ws).append (.of_token _ .comma)
      simpa [Token.text, flatMap_text_entryTokens] using htext.dense_eq
    dense_last := by
      simpa [flatMap_text_entryTokens] using (pr.laidOut_rowLine depth _).dense_eq
    getLast_full := by
      intro row hrow
      obtain ⟨ws, -, rfl⟩ := List.mem_map.1 hrow
      exact List.getLast?_concat
    getLast_last := pr.getLast?_rowLine depth hlast }

theorem words_block (depth : Nat) (t : Table) : (pr.block depth t).words = t.toList := by
  have hflatten := flatten_rows pr.columns_ne_zero t.toList
  rw [← List.dropLast_append_getLast (pr.rows_ne_nil t), List.flatten_append,
    List.flatten_singleton] at hflatten
  have hwords : (Row.words ∘ fun ws ↦ (⟨pr.rowLine depth ws ++ [','], ws⟩ : Row)) = id := rfl
  rw [Block.words, block, List.flatMap_def, List.map_map, hwords, List.map_id]
  exact hflatten

/-- The comma is left out behind the row that is the last of the block. -/
theorem lines_block (depth : Nat) (t : Table) :
    (pr.block depth t).lines = pr.rowLines depth (pr.entryTexts t) := by
  let rs := rows pr.style.columns t.toList
  have hne : rs ≠ [] := pr.rows_ne_nil t
  have hlast : (rs.dropLast.map (pr.rowLine depth)).length = pr.style.rowsPerTable - 1 := by
    rw [List.length_map, List.length_dropLast, pr.length_rows_toList t, Nat.add_sub_cancel]
  calc (pr.block depth t).lines
    _ = (rs.dropLast.map (pr.rowLine depth)).map (· ++ [',']) ++
          [pr.rowLine depth (rs.getLast hne)] := by
      rw [Block.lines, block, List.map_map, List.map_map]
      rfl
    _ = withCommas (pr.style.rowsPerTable - 1)
          (rs.dropLast.map (pr.rowLine depth) ++ [pr.rowLine depth (rs.getLast hne)]) := by
      rw [← hlast, withCommas_concat]
    _ = withCommas (pr.style.rowsPerTable - 1) (rs.map (pr.rowLine depth)) := by
      rw [← List.map_singleton, ← List.map_append, List.dropLast_append_getLast hne]
    _ = pr.rowLines depth (pr.entryTexts t) := (pr.rowLines_eq depth t).symm

end Printer

/-- The lines of an array from those of its tables, which stand between lines of their own if they
are nested. -/
def Language.arrayLines (l : Language) (nested : Bool) (blocks : List (List (List Char))) :
    List (List Char) :=
  blocks.flatMap fun block ↦
    if nested then (l.indent ++ [l.opening]) :: block ++ [l.indent ++ [l.closing, ',']] else block

/-- How far the entries of a set are indented. -/
def TableSet.depth (s : TableSet) : Nat := if s.isNested then 2 else 1

/-- The lines of the body are the rows of the tables. -/
theorem Printer.bodyLines_eq_arrayLines (pr : Printer) (s : TableSet) :
    pr.bodyLines s = pr.style.language.arrayLines s.isNested
      ((s.tables.map (pr.block s.depth)).map Block.lines) := by
  cases s with
  | single t =>
    simp [bodyLines, Language.arrayLines, TableSet.depth, TableSet.isNested, TableSet.tables,
      lines_block]
  | sliced ts =>
    have hindent : pr.indentation 1 = pr.style.language.indent := by simp [indentation]
    simp [bodyLines, Language.arrayLines, TableSet.depth, TableSet.isNested, TableSet.tables,
      lines_block, List.flatMap_map, nestedLines, hindent]

namespace Listing

/-- **A listing is a well-formed initializer at every width.**  In every style that passes its
check, whatever the tables are: behind its first equals sign, that of the declaration, and without
blanks, the listing is the initializer of the set, and its literals are a mark and sixteen lowercase
digits of the value.  Each table takes as many lines as the style says, which is 256 by the number
of columns, rounded up; the lines are full and end with a comma, but for the last one. -/
theorem render_initializer (style : Style) (h : style.check = .ok ()) (w : UInt64)
    (s : TableSet) :
    ∃ pr, Printer.ofStyle style = .ok pr ∧
      (pr.render w s).toList = pr.untilArray w s ++ '=' :: pr.arrayText s ∧
      '=' ∉ pr.untilArray w s ∧
      dense (pr.arrayText s) = style.language.initializer s ∧
      (∀ v, ∃ digits,
        style.language.literal v = '0' :: 'x' :: (digits ++ style.language.literalEnd) ∧
        digits.length = 16 ∧ (∀ c ∈ digits, ('0' ≤ c ∧ c ≤ '9') ∨ ('a' ≤ c ∧ c ≤ 'f')) ∧
        ofHex digits = v.toNat) ∧
      ∃ blocks : List (Block style.language style.columns),
        blocks.map Block.words = s.tables.map Vector.toList ∧
        (∀ b ∈ blocks, b.lines.length = 256 ⌈/⌉ style.columns ∧
          style.rowsPerTable? = some b.lines.length) ∧
        lines (pr.render w s).toList =
          pr.commentLines w ++ style.language.declaration style.name.toList s ::
            style.language.arrayLines s.isNested (blocks.map Block.lines) ++
              [[style.language.closing, ';']] := by
  have haccepted := style.check_eq_ok_iff.1 h
  let pr : Printer := ⟨style, haccepted⟩
  refine ⟨pr, Printer.ofStyle_eq_ok haccepted, pr.toList_render w s, pr.not_mem_untilArray w s,
    ?_, fun v ↦ ?_, ?_⟩
  · rw [(pr.laidOut_arrayText s).dense_eq, TableSet.flatMap_text_tokens]
  · exact ⟨word16 v, rfl, length_word16 v, fun _ ↦ isLower_of_mem_word16, ofHex_word16 v⟩
  · have hlength : ∀ t, (pr.block s.depth t).lines.length = 256 ⌈/⌉ style.columns := by
      intro t
      rw [Block.length_lines, pr.words_block, t.length_toList]
    refine ⟨s.tables.map (pr.block s.depth), ?_, fun b hb ↦ ?_, ?_⟩
    · rw [List.map_map]
      exact List.map_congr_left fun t _ ↦ pr.words_block s.depth t
    · obtain ⟨t, -, rfl⟩ := List.mem_map.1 hb
      refine ⟨hlength t, ?_⟩
      rw [hlength, ← rowCount_eq_ceilDiv haccepted.1, Style.rowsPerTable?, if_neg haccepted.1]
      rfl
    · rw [pr.lines_render, Printer.lines, pr.bodyLines_eq_arrayLines]

/-- Rows of a hundred: a table takes three lines. -/
theorem render_initializer_hundred :
    Style.check ⟨.c, "t", 100⟩ = .ok () ∧
      ∃ pr, Printer.ofStyle ⟨.c, "t", 100⟩ = .ok pr ∧
        dense (pr.arrayText (.sliced [Vector.replicate 256 7])) =
          Language.initializer .c (.sliced [Vector.replicate 256 7]) ∧
        ∃ blocks : List (Block .c 100),
          blocks.map Block.words = [List.replicate 256 7] ∧ ∀ b ∈ blocks, b.lines.length = 3 := by
  have hcheck : Style.check ⟨.c, "t", 100⟩ = .ok () := by decide
  obtain ⟨pr, hpr, -, -, hdense, -, blocks, hwords, hlength, -⟩ :=
    render_initializer ⟨.c, "t", 100⟩ hcheck 1 (.sliced [Vector.replicate 256 7])
  refine ⟨hcheck, pr, hpr, hdense, blocks, hwords.trans ?_, fun b hb ↦ (hlength b hb).1⟩
  rw [TableSet.tables, List.map_singleton, Vector.toList_replicate]

end Listing
end CrcTables
