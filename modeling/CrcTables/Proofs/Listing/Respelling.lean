import CrcTables.Proofs.Listing.Body
import CrcTables.Proofs.Listing.Scan
import CrcTables.Proofs.Rows
import CrcTables.Proofs.Text.Lines

/-!
# Other digits for the literals of a text

The literals of a text are numbered in the order in which they stand in it.  Giving some of them
other digits leaves everything between the literals as it is, so on printed rows it comes to the
same as printing other digits in the first place.

## What is here

* `Literal.respell` — a text with other digits in its literals.
* `Literal.respell_append_of_not_mem`, `Literal.respell_literal` — what happens between literals,
  and to a literal.
* `Literal.Numbered` — entries with their numbers, as they are printed (`Literal.printed`) and with
  other digits (`Literal.respelled`).
* `Printer.respell_rowLines`, `Printer.respell_flatMap_tableLines` — what happens to the rows of a
  table, and to the lines of several tables.
-/

set_option autoImplicit false
namespace CrcTables
namespace Literal

open Text

/-! ## A text -/

/-- The text in which the digits of its literals are replaced: literal number `n`, where the first
has number `k`, gets what `spell n` makes of its digits. -/
def respell (spell : Nat → List Char → List Char) (k : Nat) : List Char → List Char
  | '0' :: 'x' :: s =>
    '0' :: 'x' :: (spell k (s.takeWhile isHexDigit) ++
      respell spell (k + 1) (s.dropWhile isHexDigit))
  | c :: s => c :: respell spell k s
  | [] => []
termination_by s => s.length
decreasing_by
  · have hle := (List.dropWhile_suffix (l := s) isHexDigit).length_le
    simp only [List.length_cons]
    omega
  · simp

section respell

variable {spell : Nat → List Char → List Char} {k : Nat}

theorem respell_cons {c : Char} (h : c ≠ '0') (s : List Char) :
    respell spell k (c :: s) = c :: respell spell k s := by
  rw [respell]
  rintro rest rfl
  contradiction

/-- Text without a zero stays as it is. -/
theorem respell_append_of_not_mem {a : List Char} (h : '0' ∉ a) (s : List Char) :
    respell spell k (a ++ s) = a ++ respell spell k s := by
  induction a with
  | nil => rfl
  | cons c a ih =>
    rw [List.mem_cons, not_or] at h
    rw [List.cons_append, respell_cons (Ne.symm h.1), ih h.2, List.cons_append]

theorem respell_of_not_mem {a : List Char} (h : '0' ∉ a) : respell spell k a = a := by
  have happend : respell spell k (a ++ []) = a ++ respell spell k [] :=
    respell_append_of_not_mem h []
  rwa [List.append_nil, respell, List.append_nil] at happend

/-- A line without a zero stays as it is. -/
theorem respell_line {l : List Char} (h : '0' ∉ l) (s : List Char) :
    respell spell k (l ++ '\n' :: s) = l ++ '\n' :: respell spell k s := by
  rw [respell_append_of_not_mem h, respell_cons (by decide)]

/-- **A literal gets other digits**, if its digits end where what follows it begins. -/
theorem respell_literal (l : Language) (w : UInt64) {s : List Char}
    (hs : ∀ c ∈ s.head?, isHexDigit c = false) :
    respell spell k (l.literal w ++ s) =
      '0' :: 'x' :: (spell k (word16 w) ++ l.literalEnd) ++ respell spell (k + 1) s := by
  have hsuffix : '0' ∉ l.literalEnd := by cases l <;> decide
  have hend : ∀ c ∈ (l.literalEnd ++ s).head?, isHexDigit c = false := by
    cases l with
    | c =>
      intro c hc
      obtain rfl : 'u' = c := Option.some.inj hc
      rfl
    | rust => exact hs
  have hdigits : ∀ c ∈ word16 w, isHexDigit c = true := fun c hc ↦ isHexDigit_of_mem_word16 hc
  obtain ⟨htake, hdrop⟩ := takeWhile_append_of_end hdigits hend
  have hparts : l.literal w ++ s = '0' :: 'x' :: (word16 w ++ (l.literalEnd ++ s)) := by
    simp [Language.literal, marked16]
  rw [hparts, respell, htake, hdrop, respell_append_of_not_mem hsuffix]
  simp

end respell

/-! ## Entries with numbers -/

/-- The entries have consecutive numbers from `k` on. -/
def Numbered (k : Nat) (es : List (UInt64 × Nat)) : Prop :=
  es.map Prod.snd = List.range' k es.length

theorem numbered_zipIdx (k : Nat) (ws : List UInt64) : Numbered k (ws.zipIdx k) := by
  rw [Numbered, List.zipIdx_map_snd, List.length_zipIdx]

theorem numbered_cons {k : Nat} {e : UInt64 × Nat} {es : List (UInt64 × Nat)} :
    Numbered k (e :: es) ↔ e.2 = k ∧ Numbered (k + 1) es := by
  rw [Numbered, Numbered, List.map_cons, List.length_cons, List.range'_succ, List.cons.injEq]

theorem numbered_append {k : Nat} {es es' : List (UInt64 × Nat)} :
    Numbered k (es ++ es') ↔ Numbered k es ∧ Numbered (k + es.length) es' := by
  induction es generalizing k with
  | nil => simp [Numbered]
  | cons e es ih =>
    rw [List.cons_append, numbered_cons, numbered_cons, ih, and_assoc, List.length_cons,
      Nat.add_assoc, Nat.add_comm 1]

/-- An entry as it is printed. -/
def printed (l : Language) (e : UInt64 × Nat) : List Char := l.literal e.1

/-- An entry with other digits. -/
def respelled (l : Language) (spell : Nat → List Char → List Char) (e : UInt64 × Nat) : List Char :=
  '0' :: 'x' :: (spell e.2 (word16 e.1) ++ l.literalEnd)

section Numbered

variable (l : Language) (spell : Nat → List Char → List Char) {k : Nat}

/-- **Entries with commas between them** get other digits one by one. -/
theorem respell_commaSeparated {es : List (UInt64 × Nat)} (h : Numbered k es) {s : List Char}
    (hs : ∀ c ∈ s.head?, isHexDigit c = false) :
    respell spell k (commaSeparated (es.map (printed l)) ++ s) =
      commaSeparated (es.map (respelled l spell)) ++ respell spell (k + es.length) s := by
  induction es generalizing k with
  | nil => rfl
  | cons e es ih =>
    obtain ⟨rfl, hrest⟩ := numbered_cons.1 h
    cases es with
    | nil => simpa [commaSeparated, printed, respelled] using respell_literal l e.1 hs
    | cons e' es =>
      -- printed or respelled, the entries are cut behind the first comma
      have hcut : ∀ f : UInt64 × Nat → List Char,
          commaSeparated ((e :: e' :: es).map f) =
            f e ++ ([',', ' '] ++ commaSeparated ((e' :: es).map f)) :=
        fun f ↦ commaSeparated_cons (f e) (List.cons_ne_nil (f e') (es.map f))
      have hcomma : ∀ c ∈ ([',', ' '] ++ (commaSeparated ((e' :: es).map (printed l)) ++ s)).head?,
          isHexDigit c = false := by
        rintro c ⟨⟩
        rfl
      rw [hcut, hcut, List.append_assoc, List.append_assoc, printed, respell_literal l e.1 hcomma,
        respell_append_of_not_mem (by decide), ih hrest, respelled]
      simp [Nat.add_assoc, Nat.add_comm 1]

/-- A row gets other digits entry by entry, if something else than a digit follows it. -/
theorem respell_row {indent : List Char} (hindent : '0' ∉ indent) {row : List (UInt64 × Nat)}
    (h : Numbered k row) {c : Char} (hc : isHexDigit c = false) (s : List Char) :
    respell spell k (indent ++ commaSeparated (row.map (printed l)) ++ c :: s) =
      indent ++ commaSeparated (row.map (respelled l spell)) ++
        c :: respell spell (k + row.length) s := by
  have hend : ∀ d ∈ (c :: s).head?, isHexDigit d = false := by
    rintro d ⟨⟩
    exact hc
  have hzero := ne_zero_of_isHexDigit_eq_false hc
  rw [List.append_assoc, respell_append_of_not_mem hindent,
    respell_commaSeparated l spell h hend, respell_cons hzero, List.append_assoc]

/-- A row gets other digits with its line feed and at most a comma before that. -/
theorem respell_rowEnd {indent : List Char} (hindent : '0' ∉ indent)
    {row : List (UInt64 × Nat)} (h : Numbered k row) {tail : List Char}
    (htail : tail = [] ∨ tail = [',']) (s : List Char) :
    respell spell k (indent ++ commaSeparated (row.map (printed l)) ++ (tail ++ '\n' :: s)) =
      indent ++ commaSeparated (row.map (respelled l spell)) ++
        (tail ++ '\n' :: respell spell (k + row.length) s) := by
  rcases htail with rfl | rfl
  · exact respell_row l spell hindent h rfl s
  · have hrow := respell_row l spell hindent h (c := ',') rfl ('\n' :: s)
    rwa [respell_cons (by decide)] at hrow

/-- Rows get other digits one by one, whatever decides where the commas are. -/
theorem respell_rows {indent : List Char} (hindent : '0' ∉ indent)
    {rs : List (List (UInt64 × Nat))} (h : Numbered k rs.flatten) {tail : Nat → List Char}
    (htail : ∀ r, tail r = [] ∨ tail r = [',']) (s : List Char) :
    respell spell k (unlines
        ((rs.map fun row ↦ indent ++ commaSeparated (row.map (printed l))).mapIdx
          fun r text ↦ text ++ tail r) ++ s) =
      unlines ((rs.map fun row ↦ indent ++ commaSeparated (row.map (respelled l spell))).mapIdx
          fun r text ↦ text ++ tail r) ++ respell spell (k + rs.flatten.length) s := by
  induction rs generalizing k tail with
  | nil => rfl
  | cons row rs ih =>
    obtain ⟨hrow, hrows⟩ := numbered_append.1 h
    -- behind the first row the others are counted from one
    have hcut : ∀ (f : UInt64 × Nat → List Char) (rest : List Char),
        unlines (((row :: rs).map fun row ↦ indent ++ commaSeparated (row.map f)).mapIdx
            fun r text ↦ text ++ tail r) ++ rest =
          indent ++ commaSeparated (row.map f) ++ (tail 0 ++ '\n' ::
            (unlines ((rs.map fun row ↦ indent ++ commaSeparated (row.map f)).mapIdx
              fun r text ↦ text ++ tail (r + 1)) ++ rest)) := by
      intro f rest
      simp only [List.map_cons, List.mapIdx_cons, unlines_cons, List.append_assoc, List.cons_append]
    rw [hcut, hcut, respell_rowEnd l spell hindent hrow (htail 0),
      ih hrows fun r ↦ htail (r + 1), List.flatten_cons, List.length_append, Nat.add_assoc]

end Numbered
end Literal

/-! ## The lines of tables -/

namespace Printer

open Literal

variable (pr : Printer)

/-- Rows of printed entries are printed rows of entries. -/
theorem rowLines_map (depth : Nat) (f : UInt64 × Nat → List Char) (es : List (UInt64 × Nat)) :
    pr.rowLines depth (es.map f) =
      withCommas (pr.style.rowsPerTable - 1) ((rows pr.style.columns es).map fun row ↦
        pr.indentation depth ++ commaSeparated (row.map f)) := by
  rw [rowLines, rows_map, List.map_map]
  rfl

/-- **The rows of a table** get other digits entry by entry. -/
theorem respell_rowLines (spell : Nat → List Char → List Char) (depth : Nat) {k : Nat}
    {es : List (UInt64 × Nat)} (h : Numbered k es) (s : List Char) :
    respell spell k (Text.unlines (pr.rowLines depth (es.map (printed pr.style.language))) ++ s) =
      Text.unlines (pr.rowLines depth (es.map (respelled pr.style.language spell))) ++
        respell spell (k + es.length) s := by
  have hrows : (rows pr.style.columns es).flatten = es := flatten_rows pr.columns_ne_zero es
  have hindent : '0' ∉ pr.indentation depth := pr.not_mem_indentation (by decide) depth
  rw [← hrows] at h
  have hrespell := respell_rows pr.style.language spell hindent h
    (rowEnd_eq_or (pr.style.rowsPerTable - 1)) s
  rw [hrows] at hrespell
  rw [rowLines_map, rowLines_map]
  exact hrespell

/-- **The lines of a table** get other digits entry by entry. -/
theorem respell_tableLines (spell : Nat → List Char → List Char) (nested : Bool) {k : Nat}
    {es : List (UInt64 × Nat)} (h : Numbered k es) (s : List Char) :
    respell spell k
        (Text.unlines (pr.tableLines nested (es.map (printed pr.style.language))) ++ s) =
      Text.unlines (pr.tableLines nested (es.map (respelled pr.style.language spell))) ++
        respell spell (k + es.length) s := by
  cases nested with
  | false => exact pr.respell_rowLines spell 1 h s
  | true =>
    -- the lines around the rows have no literals
    have hindent : '0' ∉ pr.indentation 1 := pr.not_mem_indentation (by decide) 1
    have hopen : '0' ∉ pr.indentation 1 ++ [pr.style.language.opening] :=
      List.not_mem_append hindent (by cases pr.style.language <;> decide)
    have hclose : '0' ∉ pr.indentation 1 ++ [pr.style.language.closing, ','] :=
      List.not_mem_append hindent (by cases pr.style.language <;> decide)
    have hcut : ∀ (texts : List (List Char)) (tail : List Char),
        Text.unlines (pr.tableLines true texts) ++ tail =
          (pr.indentation 1 ++ [pr.style.language.opening]) ++ '\n' ::
            (Text.unlines (pr.rowLines 2 texts) ++
              ((pr.indentation 1 ++ [pr.style.language.closing, ',']) ++ '\n' :: tail)) := by
      intro texts tail
      rw [tableLines, if_pos rfl, nestedLines, List.cons_append, Text.unlines_cons,
        Text.unlines_append, Text.unlines_cons]
      simp only [Text.unlines, List.flatMap_nil, List.append_assoc, List.cons_append,
        List.nil_append]
    rw [hcut, hcut, respell_line hopen, pr.respell_rowLines spell 2 h, respell_line hclose]

/-- **The lines of several tables** get other digits entry by entry. -/
theorem respell_flatMap_tableLines (spell : Nat → List Char → List Char) (nested : Bool) {k : Nat}
    {ess : List (List (UInt64 × Nat))} (h : Numbered k ess.flatten) (s : List Char) :
    respell spell k (Text.unlines ((ess.map (List.map (printed pr.style.language))).flatMap
        (pr.tableLines nested)) ++ s) =
      Text.unlines ((ess.map (List.map (respelled pr.style.language spell))).flatMap
          (pr.tableLines nested)) ++ respell spell (k + ess.flatten.length) s := by
  induction ess generalizing k with
  | nil => rfl
  | cons es ess ih =>
    obtain ⟨hfirst, hrest⟩ := numbered_append.1 h
    have hcut : ∀ (f : UInt64 × Nat → List Char) (tail : List Char),
        Text.unlines (((es :: ess).map (List.map f)).flatMap (pr.tableLines nested)) ++ tail =
          Text.unlines (pr.tableLines nested (es.map f)) ++
            (Text.unlines ((ess.map (List.map f)).flatMap (pr.tableLines nested)) ++ tail) := by
      intro f tail
      rw [List.map_cons, List.flatMap_cons, Text.unlines_append, List.append_assoc]
    rw [hcut, hcut, pr.respell_tableLines spell nested hfirst, ih hrest, List.flatten_cons,
      List.length_append, Nat.add_assoc]

end Printer

end CrcTables
