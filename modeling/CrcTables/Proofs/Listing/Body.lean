import CrcTables.Listing.Reader
import CrcTables.Proofs.Listing.Literals
import CrcTables.Proofs.Rows
import CrcTables.Proofs.Text.Blank

/-!
# The body of a listing is read back

Behind the declaration, a listing goes on with lines that hold words and do not close the array,
until a line closes it.  Reading such lines finds their words, and the words of a set of tables make
up the set again.

## What is here

* `Listing.Carries` — a line holds these words and does not close the array.
* `Listing.readEntries_append` — reading goes through such lines, and adds up their words.
* `Printer.tableLines`, `Printer.carries_flatMap_tableLines` — the lines of tables, from the texts
  of their entries, and the words on them.
* `Printer.lineWords`, `Printer.carries_bodyLines` — the words on the lines of the body.
* `TableSet.words`, `Listing.fit?_words` — the words of a set, and the set from its words.
-/

set_option autoImplicit false
namespace CrcTables

open Literal

namespace Listing

/-! ## Lines that do not close the array -/

/-- Only a line of blanks and closing marks closes the array. -/
theorem closes_eq_false_of_mem {c : Char} {l : List Char} (hc : c ∈ l)
    (hblank : Text.isBlank c = false) (hmark : c ∉ ['\x7d', ']', ';']) : closes l = false := by
  have hmem : c ∈ Text.trim l := Text.mem_trim_of_mem hc hblank
  have hsub : ∀ text ∈ [['\x7d', ';'], [']', ';']], ∀ d ∈ text, d ∈ ['\x7d', ']', ';'] := by
    simp
  have hne : ∀ text ∈ [['\x7d', ';'], [']', ';']], Text.trim l ≠ text := by
    rintro text htext rfl
    exact hmark (hsub _ htext c hmem)
  simp [closes, hne]

/-- A line holds these words and does not close the array. -/
structure Carries (l : List Char) (ws : List UInt64) : Prop where
  /-- The literals of the line are the words. -/
  holds : Holds l ws
  /-- They are found at all the marks of the line. -/
  marks : Text.occurrences mark l = ws.length
  /-- The array goes on. -/
  goesOn : closes l = false

section Carries

variable {l : List Char} {ws : List UInt64}

theorem Carries.of_mem {c : Char} (h : Holds l ws)
    (hmarks : Text.occurrences mark l = ws.length) (hc : c ∈ l) (hblank : Text.isBlank c = false)
    (hclosing : c ∉ ['\x7d', ']', ';']) : Carries l ws :=
  ⟨h, hmarks, closes_eq_false_of_mem hc hblank hclosing⟩

/-- A line without a zero holds nothing. -/
theorem Carries.of_not_mem_zero {c : Char} (h : '0' ∉ l) (hc : c ∈ l)
    (hblank : Text.isBlank c = false) (hclosing : c ∉ ['\x7d', ']', ';']) : Carries l [] :=
  .of_mem (holds_of_not_mem h) (Text.occurrences_eq_zero List.mem_cons_self h) hc hblank hclosing

theorem Carries.concat_comma (h : Carries l ws) : Carries (l ++ [',']) ws := by
  refine .of_mem h.holds.concat_comma ?_ (List.mem_append_right l List.mem_cons_self) rfl
    (by decide)
  rw [Text.occurrences_append_cons mark_ne_nil (by decide), h.marks]
  rfl

theorem Carries.append_rowEnd (h : Carries l ws) (last r : Nat) :
    Carries (l ++ rowEnd last r) ws := by
  rcases rowEnd_eq_or last r with hend | hend
  · rwa [hend, List.append_nil]
  · rw [hend]
    exact h.concat_comma

/-- What stands behind the rows holds nothing, whichever of them is taken for the last one. -/
theorem forall₂_withCommas (last : Nat) {ls : List (List Char)} {wss : List (List UInt64)}
    (h : List.Forall₂ Carries ls wss) : List.Forall₂ Carries (withCommas last ls) wss := by
  obtain ⟨hlength, hget⟩ := List.forall₂_iff_get.1 h
  refine List.forall₂_iff_get.2 ⟨by simpa [withCommas] using hlength, fun r hr hr' ↦ ?_⟩
  have hrow := hget r (by simpa [withCommas] using hr) hr'
  simpa [withCommas] using hrow.append_rowEnd last r

end Carries

/-! ## Reading lines -/

theorem scanLine_of_holds {l : List Char} {ws : List UInt64} (h : Holds l ws) (n : Nat)
    (found : Array UInt64) : scanLine n l found = .ok (found ++ ws.toArray) := by
  rw [scanLine, h found]

/-- **Reading goes through the lines that do not close the array**, adding up their words. -/
theorem readEntries_append {ls : List (List Char)} {wss : List (List UInt64)}
    (h : List.Forall₂ Carries ls wss) (last : Nat) (found : Array UInt64)
    (rest : List (List Char)) :
    readEntries last found (ls ++ rest) =
      readEntries (last + ls.length) (found ++ wss.flatten.toArray) rest := by
  induction h generalizing last found with
  | nil => simp
  | @cons l ws ls wss hl hls ih =>
    rw [List.cons_append, readEntries, scanLine_of_holds hl.holds]
    simp only [hl.goesOn, Bool.false_eq_true, if_false]
    rw [ih, List.length_cons, List.flatten_cons, ← List.append_toArray, Array.append_assoc,
      Nat.add_right_comm, Nat.add_assoc]

/-- A line that closes the array is the last one that is read. -/
theorem readEntries_of_closes {l : List Char} {ws : List UInt64} (h : Holds l ws)
    (hclose : closes l = true) (last : Nat) (found : Array UInt64) (rest : List (List Char)) :
    readEntries last found (l :: rest) = .ok (last + 1, found ++ ws.toArray) := by
  rw [readEntries, scanLine_of_holds h]
  simp only [hclose, if_true]

end Listing

/-! ## The words of a set -/

/-- The entries of all tables, one after the other. -/
def TableSet.words (s : TableSet) : List UInt64 := s.tables.flatMap Vector.toList

/-- Entry `i` of table `t` stands at place `256 * t + i`. -/
theorem getElem?_flatMap_toList (ts : List Table) (t i : Nat) (hi : i < 256) :
    (ts.flatMap Vector.toList)[256 * t + i]? = ts[t]?.map fun table ↦ table[i] := by
  induction ts generalizing t with
  | nil => rfl
  | cons table ts ih =>
    have hlength : table.toList.length = 256 := table.length_toList
    rw [List.flatMap_cons]
    cases t with
    | zero =>
      rw [List.getElem?_append_left (by omega), List.getElem?_cons_zero]
      simp [hi]
    | succ t =>
      rw [List.getElem?_append_right (by omega), List.getElem?_cons_succ, ← ih t]
      congr 1
      omega

theorem length_flatMap_toList (ts : List Table) :
    (ts.flatMap Vector.toList).length = 256 * ts.length := by
  induction ts with
  | nil => rfl
  | cons t ts ih =>
    rw [List.flatMap_cons, List.length_append, ih, t.length_toList, List.length_cons]
    omega

/-- A table is found again among the words of all. -/
theorem Listing.tableAt_flatMap_toList {ts : List Table} {t : Nat} (ht : t < ts.length)
    (h : 256 * t + 256 ≤ (ts.flatMap Vector.toList).toArray.size) :
    tableAt (ts.flatMap Vector.toList).toArray t h = ts[t] := by
  refine Vector.ext fun i hi ↦ ?_
  have hget := getElem?_flatMap_toList ts t i hi
  rw [List.getElem?_eq_getElem ht, Option.map_some, List.getElem?_eq_some_iff] at hget
  obtain ⟨_, hget⟩ := hget
  simpa [tableAt] using hget

/-- **A set is found again** from its words and its layout. -/
theorem Listing.fit?_words (s : TableSet) : fit? s.words.toArray s.layout = some s := by
  have hsize : s.words.toArray.size = 256 * s.tables.length := by
    rw [List.size_toArray, TableSet.words, length_flatMap_toList]
  cases s with
  | single t =>
    have hsingle : (TableSet.single t).words.toArray.size = 256 := hsize
    have hfirst : 0 < [t].length := Nat.one_pos
    rw [TableSet.layout, fit?, dif_pos hsingle]
    exact congrArg (some ∘ TableSet.single) (tableAt_flatMap_toList hfirst _)
  | sliced ts =>
    have hsliced : (TableSet.sliced ts).words.toArray.size = 256 * ts.length := hsize
    rw [TableSet.layout, fit?, dif_pos hsliced]
    refine congrArg (some ∘ TableSet.sliced) (List.ext_getElem (by simp) fun t ht ht' ↦ ?_)
    rw [List.getElem_ofFn]
    exact tableAt_flatMap_toList ht' _

/-! ## The lines that are printed -/

namespace Printer

open Listing

variable (pr : Printer)

theorem not_mem_indentation {c : Char} (h : c ≠ ' ' ∧ c ≠ '\t') (depth : Nat) :
    c ∉ pr.indentation depth := by
  rw [indentation, List.mem_flatten]
  rintro ⟨piece, hpiece, hc⟩
  rw [List.eq_of_mem_replicate hpiece] at hc
  cases hl : pr.style.language <;> rw [hl] at hc <;> simp [Language.indent, h] at hc

/-- A row holds the words of its entries; it goes on with the array because a literal has a zero
in it. -/
theorem carries_row {texts : List (List Char)} {ws : List UInt64}
    (h : List.Forall₂ (Spells pr.style.language) texts ws) (hne : texts ≠ []) (depth : Nat) :
    Carries (pr.indentation depth ++ commaSeparated texts) ws := by
  have hzero : '0' ∈ commaSeparated texts := by
    obtain ⟨text, texts, rfl⟩ := List.exists_cons_of_ne_nil hne
    obtain ⟨w, ws, ⟨digits, -, rfl⟩, -, rfl⟩ := List.forall₂_cons_left_iff.1 h
    cases texts <;> simp [commaSeparated, List.intercalate_cons_cons]
  have hindent : '0' ∉ pr.indentation depth := pr.not_mem_indentation (by decide) depth
  exact .of_mem ((holds_commaSeparated h).append_left hindent)
    ((Text.occurrences_append_of_not_mem hindent _).trans (occurrences_commaSeparated h))
    (List.mem_append_right _ hzero) rfl (by decide)

theorem columns_ne_zero : pr.style.columns ≠ 0 := pr.accepted.1

/-- **The rows of a table** hold the words of its entries, row by row. -/
theorem carries_rowLines {texts : List (List Char)} {ws : List UInt64}
    (h : List.Forall₂ (Spells pr.style.language) texts ws) (depth : Nat) :
    List.Forall₂ Carries (pr.rowLines depth texts) (rows pr.style.columns ws) := by
  have hrows : List.Forall₂ (fun row ws ↦ row ≠ [] ∧ List.Forall₂ (Spells pr.style.language) row ws)
      (rows pr.style.columns texts) (rows pr.style.columns ws) :=
    (List.forall₂_and_left _ _).2
      ⟨fun row ↦ ne_nil_of_mem_rows pr.columns_ne_zero, forall₂_rows pr.style.columns h⟩
  rw [rowLines]
  refine forall₂_withCommas _ (List.forall₂_map_left_iff.2 (hrows.imp ?_))
  exact fun row ws h ↦ pr.carries_row h.2 h.1 depth

/-- A table of a nested set stands between two lines that hold nothing. -/
theorem carries_nestedLines {texts : List (List Char)} {ws : List UInt64}
    (h : List.Forall₂ (Spells pr.style.language) texts ws) :
    List.Forall₂ Carries (pr.nestedLines texts) ([] :: rows pr.style.columns ws ++ [[]]) := by
  have hzero : '0' ∉ [pr.style.language.opening] ∧ '0' ∉ [pr.style.language.closing, ','] := by
    cases pr.style.language <;> decide
  have hgoesOn : Text.isBlank pr.style.language.opening = false ∧
      pr.style.language.opening ∉ ['\x7d', ']', ';'] := by
    cases pr.style.language <;> decide
  have hindent : '0' ∉ pr.indentation 1 := pr.not_mem_indentation (by decide) 1
  have hopen : Carries (pr.indentation 1 ++ [pr.style.language.opening]) [] :=
    .of_not_mem_zero (List.not_mem_append hindent hzero.1) (by simp) hgoesOn.1 hgoesOn.2
  have hclose : Carries (pr.indentation 1 ++ [pr.style.language.closing, ',']) [] :=
    .of_not_mem_zero (List.not_mem_append hindent hzero.2)
      (List.mem_append_right _ (List.mem_cons_of_mem _ List.mem_cons_self)) rfl (by decide)
  exact List.rel_append (.cons hopen (pr.carries_rowLines h 2)) (.cons hclose .nil)

/-- The lines of one table, from the texts of its entries. -/
def tableLines (nested : Bool) (texts : List (List Char)) : List (List Char) :=
  if nested then pr.nestedLines texts else pr.rowLines 1 texts

/-- The words on the lines of one table. -/
def tableWords (nested : Bool) (ws : List UInt64) : List (List UInt64) :=
  if nested then [] :: rows pr.style.columns ws ++ [[]] else rows pr.style.columns ws

theorem carries_tableLines (nested : Bool) {texts : List (List Char)} {ws : List UInt64}
    (h : List.Forall₂ (Spells pr.style.language) texts ws) :
    List.Forall₂ Carries (pr.tableLines nested texts) (pr.tableWords nested ws) := by
  cases nested with
  | false => exact pr.carries_rowLines h 1
  | true => exact pr.carries_nestedLines h

theorem flatten_tableWords (nested : Bool) (ws : List UInt64) :
    (pr.tableWords nested ws).flatten = ws := by
  cases nested <;> simp [tableWords, flatten_rows pr.columns_ne_zero]

/-- **The lines of several tables** hold the words of their entries and do not close the array. -/
theorem carries_flatMap_tableLines (nested : Bool) {tables : List (List (List Char))}
    {wss : List (List UInt64)}
    (h : List.Forall₂ (List.Forall₂ (Spells pr.style.language)) tables wss) :
    List.Forall₂ Carries (tables.flatMap (pr.tableLines nested))
      (wss.flatMap (pr.tableWords nested)) :=
  List.rel_flatMap h fun _ _ htable ↦ pr.carries_tableLines nested htable

theorem flatten_flatMap_tableWords (nested : Bool) (wss : List (List UInt64)) :
    (wss.flatMap (pr.tableWords nested)).flatten = wss.flatten := by
  induction wss with
  | nil => rfl
  | cons ws wss ih =>
    rw [List.flatMap_cons, List.flatten_append, ih, flatten_tableWords, List.flatten_cons]

/-- The lines of the body are those of its tables. -/
theorem bodyLines_eq (s : TableSet) :
    pr.bodyLines s = (s.tables.map pr.entryTexts).flatMap (pr.tableLines s.isNested) := by
  cases s with
  | single t => simp [bodyLines, TableSet.tables, TableSet.isNested, tableLines]
  | sliced ts =>
    rw [TableSet.tables, TableSet.isNested, List.flatMap_map]
    rfl

/-- The words on the lines between the declaration and the end of the array. -/
def lineWords : TableSet → List (List UInt64)
  | .single t => rows pr.style.columns t.toList
  | .sliced ts => ts.flatMap fun t ↦ [] :: rows pr.style.columns t.toList ++ [[]]

theorem lineWords_eq (s : TableSet) :
    pr.lineWords s = (s.tables.map Vector.toList).flatMap (pr.tableWords s.isNested) := by
  cases s with
  | single t => simp [lineWords, TableSet.tables, TableSet.isNested, tableWords]
  | sliced ts =>
    rw [TableSet.tables, TableSet.isNested, List.flatMap_map]
    rfl

theorem spells_entryTexts (t : Table) :
    List.Forall₂ (Spells pr.style.language) (pr.entryTexts t) t.toList := by
  rw [entryTexts, List.forall₂_map_left_iff, List.forall₂_same]
  exact fun w _ ↦ spells_literal pr.style.language w

/-- **The lines of the body** hold the words of the tables and do not close the array. -/
theorem carries_bodyLines (s : TableSet) :
    List.Forall₂ Carries (pr.bodyLines s) (pr.lineWords s) := by
  rw [bodyLines_eq, lineWords_eq]
  refine pr.carries_flatMap_tableLines s.isNested ?_
  rw [List.forall₂_map_left_iff, List.forall₂_map_right_iff, List.forall₂_same]
  exact fun t _ ↦ pr.spells_entryTexts t

theorem flatten_lineWords (s : TableSet) : (pr.lineWords s).flatten = s.words := by
  rw [lineWords_eq, flatten_flatMap_tableWords, TableSet.words, List.flatMap_def]

end Printer

end CrcTables
