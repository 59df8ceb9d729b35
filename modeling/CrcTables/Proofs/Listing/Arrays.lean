import CrcTables.Proofs.Listing.Tokens

/-!
# The array of a listing as tokens

What a listing writes behind its equals sign is an initializer of its language: the entries of each
table with commas between them, in brackets, and in a nested set the tables with a comma behind
each, in brackets again.  The number of entries in a row moves blanks and line feeds about, and no
token.

## What is here

* `TableSet.tokens` — the tokens of the array of a set.
* `TableSet.flatMap_words_tokens`, `TableSet.separated_tokens` — they hold the words of the set, and
  no two literals touch.
* `Language.initializer`, `TableSet.flatMap_text_tokens` — the array as a text without blanks.
* `Printer.laidOut_arrayText` — the text behind the equals sign of a listing is these tokens.
-/

set_option autoImplicit false
namespace CrcTables

open Text Literal

/-! ## The tokens of a set -/

/-- Entries with commas between them. -/
def entryTokens : List UInt64 → List Token
  | [] => []
  | [w] => [.entry w]
  | w :: ws => .entry w :: .comma :: entryTokens ws

/-- A table of a nested set: its entries in brackets, and a comma. -/
def nestedTokens (ws : List UInt64) : List Token :=
  .opening :: (entryTokens ws ++ [.closing, .comma])

namespace TableSet

/-- The tokens between the outer brackets. -/
def bodyTokens : TableSet → List Token
  | single t => entryTokens t.toList
  | sliced ts => ts.flatMap fun t ↦ nestedTokens t.toList

/-- The tokens behind the equals sign of a listing. -/
def tokens (s : TableSet) : List Token := .opening :: (s.bodyTokens ++ [.closing, .semicolon])

end TableSet

section Entries

variable (ws : List UInt64)

/-- Entries one after the other have a comma between them. -/
theorem entryTokens_append {us vs : List UInt64} (hus : us ≠ []) (hvs : vs ≠ []) :
    entryTokens (us ++ vs) = entryTokens us ++ .comma :: entryTokens vs := by
  obtain ⟨v, vs, rfl⟩ := List.exists_cons_of_ne_nil hvs
  fun_induction entryTokens us with
  | case1 => contradiction
  | case2 u => rfl
  | case3 u us hne ih =>
    obtain ⟨u', us, rfl⟩ := List.exists_cons_of_ne_nil hne
    exact congrArg (fun ts ↦ .entry u :: .comma :: ts) (ih hne)

theorem flatMap_words_entryTokens : (entryTokens ws).flatMap Token.words = ws := by
  fun_induction entryTokens ws with
  | case1 => rfl
  | case2 w => rfl
  | case3 w ws _ ih => exact congrArg (w :: ·) ih

theorem separated_entryTokens : Separated (entryTokens ws) := by
  fun_induction entryTokens ws with
  | case1 => exact .nil
  | case2 w => exact .singleton _
  | case3 w ws _ ih =>
    have hentry : Separated [.entry w] := .singleton _
    exact hentry.append_cons (t := .comma) ih rfl

theorem not_semicolon_mem_entryTokens : .semicolon ∉ entryTokens ws := by
  fun_induction entryTokens ws with
  | case1 => exact List.not_mem_nil
  | case2 w => simp
  | case3 w ws _ ih => simpa using ih

/-- Tables of a nested set can stand before other tokens. -/
theorem separated_nestedTokens_append {us : List Token} (hus : Separated us) :
    Separated (nestedTokens ws ++ us) := by
  have hclosing : Separated ([.closing] ++ .comma :: us) :=
    Separated.append_cons (.singleton _) hus rfl
  have hentries : Separated (entryTokens ws ++ .closing :: .comma :: us) :=
    (separated_entryTokens ws).append_cons (List.isChain_cons.1 hclosing).2 rfl
  have hopening : Separated ([] ++ .opening :: (entryTokens ws ++ .closing :: .comma :: us)) :=
    Separated.append_cons .nil hentries rfl
  simpa [nestedTokens] using hopening

end Entries

namespace TableSet

variable (s : TableSet)

theorem flatMap_words_bodyTokens : s.bodyTokens.flatMap Token.words = s.words := by
  have hnested : ∀ ws, (nestedTokens ws).flatMap Token.words = ws := by
    intro ws
    simp [nestedTokens, Token.words, flatMap_words_entryTokens]
  cases s with
  | single t => simp [bodyTokens, words, tables, flatMap_words_entryTokens]
  | sliced ts => simp [bodyTokens, words, tables, List.flatMap_assoc, hnested]

/-- **The tokens of a set hold its words.** -/
theorem flatMap_words_tokens : s.tokens.flatMap Token.words = s.words := by
  rw [tokens, List.flatMap_cons, List.flatMap_append, flatMap_words_bodyTokens]
  exact List.append_nil _

theorem separated_bodyTokens : Separated s.bodyTokens := by
  cases s with
  | single t => exact separated_entryTokens t.toList
  | sliced ts =>
    rw [bodyTokens]
    induction ts with
    | nil => exact .nil
    | cons t ts ih => exact separated_nestedTokens_append t.toList ih

/-- **No two literals of a set touch.** -/
theorem separated_tokens : Separated s.tokens := by
  have hend : Separated (s.bodyTokens ++ .closing :: [.semicolon]) :=
    s.separated_bodyTokens.append_cons (.singleton _) rfl
  exact Separated.append_cons .nil hend rfl

theorem not_semicolon_mem_bodyTokens : .semicolon ∉ s.bodyTokens := by
  cases s with
  | single t => exact not_semicolon_mem_entryTokens t.toList
  | sliced ts => simp [bodyTokens, nestedTokens, not_semicolon_mem_entryTokens]

/-- **The semicolon is the last token.** -/
theorem not_semicolon_mem_dropLast_tokens : .semicolon ∉ s.tokens.dropLast := by
  have hlast : s.tokens = (.opening :: (s.bodyTokens ++ [.closing])) ++ [.semicolon] := by
    simp [tokens]
  rw [hlast, List.dropLast_concat]
  simp [not_semicolon_mem_bodyTokens]

end TableSet

/-! ## The initializer as a text -/

namespace Language

/-- The literals of entries with commas between them. -/
def entriesText (l : Language) (ws : List UInt64) : List Char :=
  [','].intercalate (ws.map l.literal)

/-- The initializer of a set, without blanks. -/
def initializer (l : Language) : TableSet → List Char
  | .single t => [l.opening] ++ l.entriesText t.toList ++ [l.closing, ';']
  | .sliced ts =>
    [l.opening] ++ (ts.flatMap fun t ↦
      [l.opening] ++ l.entriesText t.toList ++ [l.closing, ',']) ++ [l.closing, ';']

end Language

theorem flatMap_text_entryTokens (l : Language) (ws : List UInt64) :
    (entryTokens ws).flatMap (Token.text l) = l.entriesText ws := by
  fun_induction entryTokens ws with
  | case1 => rfl
  | case2 w => simp [Language.entriesText, Token.text]
  | case3 w ws hne ih =>
    rw [List.flatMap_cons, List.flatMap_cons, ih, Language.entriesText, Language.entriesText,
      List.map_cons, List.intercalate_cons_of_ne_nil (by simpa using hne)]
    simp [Token.text]

/-- **The tokens of a set are written as its initializer.** -/
theorem TableSet.flatMap_text_tokens (l : Language) (s : TableSet) :
    s.tokens.flatMap (Token.text l) = l.initializer s := by
  cases s with
  | single t =>
    simp [tokens, bodyTokens, Language.initializer, Token.text, flatMap_text_entryTokens]
  | sliced ts =>
    simp [tokens, bodyTokens, nestedTokens, Language.initializer, Token.text, List.flatMap_assoc,
      flatMap_text_entryTokens]

/-! ## The text that is printed -/

section Rows

variable {l : Language}

theorem laidOut_commaSeparated (ws : List UInt64) :
    LaidOut l (entryTokens ws) (commaSeparated (ws.map l.literal)) := by
  fun_induction entryTokens ws with
  | case1 => exact .nil
  | case2 w => simpa [commaSeparated, Token.text] using LaidOut.of_token l (.entry w)
  | case3 w ws hne ih =>
    rw [List.map_cons, commaSeparated_cons _ (by simpa using hne)]
    exact .token (.entry w) (.token .comma (.blank rfl ih))

/-- A line feed behind a text. -/
theorem LaidOut.concat_feed {ts : List Token} {s : List Char} (h : LaidOut l ts s) :
    LaidOut l ts (s ++ ['\n']) := by
  simpa using h.append (.of_blanks (List.forall_mem_singleton.2 rfl))

/-- The first of several rows ends with a comma; behind it there is one row less to count. -/
theorem withCommas_cons (last : Nat) (line : List Char) (ls : List (List Char)) :
    withCommas (last + 1) (line :: ls) = (line ++ [',']) :: withCommas last ls := by
  simp [withCommas, rowEnd]

theorem withCommas_singleton (line : List Char) : withCommas 0 [line] = [line] := by
  simp [withCommas, rowEnd]

/-- **If the last row is the one that is counted as such**, a comma stands behind each but the
last. -/
theorem withCommas_concat (ls : List (List Char)) (line : List Char) :
    withCommas ls.length (ls ++ [line]) = ls.map (· ++ [',']) ++ [line] := by
  induction ls with
  | nil => exact withCommas_singleton line
  | cons first ls ih =>
    rw [List.length_cons, List.cons_append, withCommas_cons, ih, List.map_cons, List.cons_append]

/-- **Rows with commas between them** are the entries of all rows, if each row has some and the last
one is counted as such. -/
theorem laidOut_withCommas {ls : List (List Char)} {wss : List (List UInt64)} {last : Nat}
    (hlast : ls.length = last + 1)
    (h : List.Forall₂ (fun line ws ↦ ws ≠ [] ∧ LaidOut l (entryTokens ws) line) ls wss) :
    LaidOut l (entryTokens wss.flatten) (unlines (withCommas last ls)) := by
  induction h generalizing last with
  | nil => contradiction
  | @cons line ws ls wss hline hls ih =>
    rw [List.length_cons, Nat.add_right_cancel_iff] at hlast
    cases hls with
    | nil =>
      obtain rfl : 0 = last := hlast
      simpa [withCommas_singleton, unlines] using hline.2.concat_feed
    | @cons line' ws' ls wss hline' hls =>
      have hne : (ws' :: wss).flatten ≠ [] := by simp [hline'.1]
      have hrow : LaidOut l (entryTokens ws ++ [.comma]) ((line ++ [',']) ++ ['\n']) :=
        (hline.2.append (.of_token l .comma)).concat_feed
      obtain rfl : ls.length + 1 = last := hlast
      rw [List.flatten_cons, entryTokens_append hline.1 hne, withCommas_cons, unlines_cons]
      simpa using hrow.append (ih rfl)

end Rows

namespace Printer

variable (pr : Printer)

theorem isBlank_of_mem_indentation {depth : Nat} :
    ∀ c ∈ pr.indentation depth, isBlank c = true := by
  intro c hc
  obtain ⟨piece, hpiece, hc⟩ := List.mem_flatten.1 hc
  rw [List.eq_of_mem_replicate hpiece] at hc
  have hindent : pr.style.language.indent.all isBlank = true := by cases pr.style.language <;> rfl
  exact List.all_eq_true.1 hindent c hc

/-- A line that is indented. -/
theorem laidOut_indented (depth : Nat) {ts : List Token} {s : List Char}
    (h : LaidOut pr.style.language ts s) :
    LaidOut pr.style.language ts (pr.indentation depth ++ s) := by
  simpa using (LaidOut.of_blanks pr.isBlank_of_mem_indentation).append h

/-- The line of a row, up to its comma. -/
def rowLine (depth : Nat) (ws : List UInt64) : List Char :=
  pr.indentation depth ++ commaSeparated (ws.map pr.style.language.literal)

/-- The rows of a table are cut from its entries. -/
theorem rowLines_eq (depth : Nat) (t : Table) :
    pr.rowLines depth (pr.entryTexts t) =
      withCommas (pr.style.rowsPerTable - 1)
        ((rows pr.style.columns t.toList).map (pr.rowLine depth)) := by
  rw [rowLines, entryTexts, rows_map, List.map_map]
  rfl

/-- **A table is cut into as many rows as the style counts**, so the last row is the one that is
counted as such. -/
theorem length_rows_toList (t : Table) :
    (rows pr.style.columns t.toList).length = pr.style.rowsPerTable - 1 + 1 := by
  obtain ⟨last, hlast⟩ : ∃ last, pr.style.rowsPerTable = last + 1 :=
    ⟨_, rowCount_eq_succ pr.columns_ne_zero (by decide)⟩
  rw [length_rows, t.length_toList, hlast, Nat.add_sub_cancel]
  exact hlast

/-- A row is its entries. -/
theorem laidOut_rowLine (depth : Nat) (ws : List UInt64) :
    LaidOut pr.style.language (entryTokens ws) (pr.rowLine depth ws) :=
  pr.laidOut_indented depth (laidOut_commaSeparated ws)

/-- The rows of a table are its entries. -/
theorem laidOut_rowLines (depth : Nat) (t : Table) :
    LaidOut pr.style.language (entryTokens t.toList)
      (unlines (pr.rowLines depth (pr.entryTexts t))) := by
  have hrows : List.Forall₂
      (fun line row ↦ row ≠ [] ∧ LaidOut pr.style.language (entryTokens row) line)
      ((rows pr.style.columns t.toList).map (pr.rowLine depth))
      (rows pr.style.columns t.toList) := by
    rw [List.forall₂_map_left_iff, List.forall₂_same]
    intro row hrow
    exact ⟨ne_nil_of_mem_rows pr.columns_ne_zero hrow, pr.laidOut_rowLine depth row⟩
  have hflatten := laidOut_withCommas ((List.length_map _).trans (pr.length_rows_toList t)) hrows
  rwa [flatten_rows pr.columns_ne_zero, ← rowLines_eq] at hflatten

/-- The lines of a table of a nested set are the table and its comma. -/
theorem laidOut_nestedLines (t : Table) :
    LaidOut pr.style.language (nestedTokens t.toList)
      (unlines (pr.nestedLines (pr.entryTexts t))) := by
  have hopening := (pr.laidOut_indented 1 (.of_token _ .opening)).concat_feed
  have hclosing := (pr.laidOut_indented 1
    ((LaidOut.of_token pr.style.language .closing).append (.of_token _ .comma))).concat_feed
  have hlines := (hopening.append (pr.laidOut_rowLines 2 t)).append hclosing
  rw [nestedLines, unlines_append, unlines_cons]
  simpa [nestedTokens, Token.text, unlines] using hlines

/-- The lines between the brackets are the tokens between them. -/
theorem laidOut_bodyLines (s : TableSet) :
    LaidOut pr.style.language s.bodyTokens (unlines (pr.bodyLines s)) := by
  cases s with
  | single t => exact pr.laidOut_rowLines 1 t
  | sliced ts =>
    rw [bodyLines, TableSet.bodyTokens]
    induction ts with
    | nil => exact .nil
    | cons t ts ih =>
      rw [List.flatMap_cons, List.flatMap_cons, unlines_append]
      exact (pr.laidOut_nestedLines t).append ih

/-- **Behind its equals sign a listing is the tokens of its set.** -/
theorem laidOut_arrayText (s : TableSet) :
    LaidOut pr.style.language s.tokens (pr.arrayText s) := by
  have hopening := (LaidOut.blank (c := ' ') rfl
    (.of_token pr.style.language .opening)).concat_feed
  have hclosing := ((LaidOut.of_token pr.style.language .closing).append
    (.of_token _ .semicolon)).concat_feed
  have htext := hopening.append ((pr.laidOut_bodyLines s).append hclosing)
  simpa [TableSet.tokens, arrayText, arrayWith, Token.text] using htext

end Printer

end CrcTables
