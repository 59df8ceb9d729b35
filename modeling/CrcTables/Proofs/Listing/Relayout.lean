import CrcTables.Proofs.Listing.Arrays
import CrcTables.Proofs.Listing.Grammar
import CrcTables.Proofs.Listing.RoundTrip
import Mathlib.Logic.Relation

/-!
# The layout of an array does not matter

Reading goes line by line and stops at a line that closes the array.  Nevertheless the lines may be
broken, joined and indented in any way: no line break cuts a literal or makes two of one, and no
line closes the array before the last literal, because the semicolon is the last token.

## What is here

* `BlankEdit` — one edit of a text, which puts in a blank or takes one away, but not in a literal.
* `BlankEdit.laidOut` — an edit leaves the tokens of a text as they are.
* `LaidOut.exists_throughClosing` — however a text breaks its tokens into lines, these have the
  words of the tokens.
* `Listing.parse_of_laidOut` — a listing is read as its set from any text of its tokens.
* `Listing.parse_relayout` — so it is after any edits.
-/

set_option autoImplicit false
namespace CrcTables

open Text Literal Listing

/-! ## Edits -/

/-- One edit of the blanks of a text. -/
inductive BlankEdit (l : Language) : List Char → List Char → Prop
  /-- A blank is put in, not inside a literal. -/
  | insert {a b : List Char} {c : Char} (hc : isBlank c = true) (hcut : ¬ CutsLiteral l a b) :
      BlankEdit l (a ++ b) (a ++ c :: b)
  /-- A blank is taken away. -/
  | delete {a b : List Char} {c : Char} (hc : isBlank c = true) :
      BlankEdit l (a ++ c :: b) (a ++ b)

section Edits

variable {l : Language} {ts : List Token} {s s' : List Char}

/-- **An edit leaves the tokens as they are.** -/
theorem BlankEdit.laidOut (hedit : BlankEdit l s s') (h : LaidOut l ts s) : LaidOut l ts s' := by
  cases hedit with
  | insert hc hcut =>
    obtain ⟨us, vs, rfl, hus, hvs⟩ := h.exists_append hcut
    exact hus.append (.blank hc hvs)
  | delete hc =>
    obtain ⟨us, vs, rfl, hus, hvs⟩ := h.exists_append_cons hc
    exact hus.append hvs

/-- So do any edits. -/
theorem LaidOut.of_edits (h : LaidOut l ts s)
    (hedits : Relation.ReflTransGen (BlankEdit l) s s') : LaidOut l ts s' := by
  induction hedits with
  | refl => exact h
  | tail _ hedit ih => exact hedit.laidOut ih

end Edits

/-! ## Tokens that can be broken into lines -/

/-- Tokens that are read alike wherever lines are broken between them. -/
structure Breakable (ts : List Token) : Prop where
  /-- No two literals touch. -/
  separated : Separated ts
  /-- The semicolon, which a line that closes the array has on it, is the last token. -/
  last : .semicolon ∉ ts.dropLast

theorem TableSet.breakable_tokens (s : TableSet) : Breakable s.tokens :=
  ⟨s.separated_tokens, s.not_semicolon_mem_dropLast_tokens⟩

namespace Breakable

variable {us vs : List Token} (h : Breakable (us ++ vs))

include h

theorem eq_nil_of_mem (hmem : .semicolon ∈ us) : vs = [] := by
  by_contra hne
  have hlast := h.last
  rw [List.dropLast_append_of_ne_nil hne] at hlast
  exact hlast (List.mem_append_left _ hmem)

theorem right : Breakable vs := by
  refine ⟨h.separated.right_of_append, fun hmem ↦ ?_⟩
  have hne : vs ≠ [] := by
    rintro rfl
    contradiction
  have hlast := h.last
  rw [List.dropLast_append_of_ne_nil hne] at hlast
  exact hlast (List.mem_append_right _ hmem)

end Breakable

/-! ## The lines -/

/-- A line that closes the array has a semicolon on it. -/
theorem Listing.semicolon_mem_of_closes {line : List Char} (h : closes line = true) :
    ';' ∈ line := by
  refine mem_of_mem_trim ?_
  rw [closes, Bool.or_eq_true, beq_iff_eq, beq_iff_eq] at h
  rcases h with h | h <;> rw [h] <;> decide

namespace LaidOut

variable {l : Language} {ts : List Token} {s : List Char}

/-- The ending of a line is not part of a token. -/
theorem dropReturn (h : LaidOut l ts s) : LaidOut l ts (dropReturn s) := by
  rcases dropReturn_eq_or s with heq | heq
  · rw [heq]
    exact h
  · rw [heq] at h
    obtain ⟨us, vs, rfl, hus, hvs⟩ := h.exists_append_cons (b := []) rfl
    simpa using hus.append hvs

/-- The first line has some of the tokens, the others stand behind it. -/
theorem exists_line {line : List Char} (h : LaidOut l ts (line ++ '\n' :: s)) :
    ∃ us vs, ts = us ++ vs ∧ LaidOut l us (Text.dropReturn line) ∧ LaidOut l vs s := by
  obtain ⟨us, vs, hts, hus, hvs⟩ := h.exists_append_cons rfl
  exact ⟨us, vs, hts, hus.dropReturn, hvs⟩

/-- **However tokens are broken into lines**, the lines up to the one that closes the array have
their words. -/
theorem exists_throughClosing (h : LaidOut l ts s) (hts : Breakable ts) :
    ∃ wss, List.Forall₂ Has (throughClosing (lines s)) wss ∧
      wss.flatten = ts.flatMap Token.words := by
  induction s using lines_induction generalizing ts with
  | last line hfeed =>
    have hholds := h.holds hts.separated
    by_cases hne : line = []
    · subst hne
      exact ⟨[], .nil, hholds.eq_nil.symm⟩
    · refine ⟨[ts.flatMap Token.words], ?_, by simp⟩
      rw [lines_of_not_mem hfeed hne, throughClosing, throughClosing, ite_self]
      exact .cons hholds.has .nil
  | cons line s hfeed ih =>
    obtain ⟨us, vs, rfl, hus, hvs⟩ := h.exists_line
    have hline := (hus.holds hts.separated.left_of_append).has
    rw [lines_append_cons hfeed, throughClosing]
    by_cases hclose : closes (Text.dropReturn line) = true
    · -- the semicolon is on this line, so that no token is left for the others
      obtain ⟨t, ht, hmem⟩ := hus.exists_mem_text (semicolon_mem_of_closes hclose) rfl
      obtain rfl := Token.eq_semicolon_of_mem hmem
      rw [if_pos hclose]
      exact ⟨[us.flatMap Token.words], .cons hline .nil, by simp [hts.eq_nil_of_mem ht]⟩
    · obtain ⟨wss, hwss, hwords⟩ := ih hvs hts.right
      rw [if_neg hclose]
      exact ⟨us.flatMap Token.words :: wss, .cons hline hwss, by simp [hwords]⟩

/-- The first letter of the label stands nowhere in the text. -/
theorem not_mem (h : LaidOut l ts s) : 'R' ∉ s := by
  intro hmem
  obtain ⟨t, -, ht⟩ := h.exists_mem_text hmem rfl
  exact Token.ne_of_mem_text ht rfl

/-- Behind an equals sign, the rest of its line has tokens, too. -/
theorem exists_lines (h : LaidOut l ts s) (hts : Breakable ts) {front : List Char}
    (hfront : '\n' ∉ front) :
    ∃ tail rest, lines (front ++ '=' :: s) = (front ++ '=' :: tail) :: rest ∧ 'R' ∉ tail ∧
      ∃ wss, List.Forall₂ Has (tail :: throughClosing rest) wss ∧
        wss.flatten = ts.flatMap Token.words := by
  by_cases hfeed : '\n' ∈ s
  · obtain ⟨line, s, rfl, hline⟩ := List.eq_append_cons_of_mem hfeed
    obtain ⟨us, vs, rfl, hus, hvs⟩ := h.exists_line
    obtain ⟨wss, hwss, hwords⟩ := hvs.exists_throughClosing hts.right
    refine ⟨Text.dropReturn line, lines s, ?_, hus.not_mem, us.flatMap Token.words :: wss, ?_, ?_⟩
    · have hfirst : '\n' ∉ front ++ '=' :: line := by simp [hfront, hline]
      rw [← dropReturn_append_cons front (by decide), ← lines_append_cons hfirst,
        List.append_assoc, List.cons_append]
    · exact .cons (hus.holds hts.separated.left_of_append).has hwss
    · simp [hwords]
  · refine ⟨s, [], ?_, h.not_mem, [ts.flatMap Token.words], ?_, by simp⟩
    · exact lines_of_not_mem (by simp [hfront, hfeed]) (by simp)
    · exact .cons (h.holds hts.separated).has .nil

end LaidOut

/-! ## Reading -/

namespace Listing

/-- **A listing is read as its set from any text of its tokens**, if the set may be read. -/
theorem parse_of_laidOut (pr : Printer) (w : UInt64) {s : TableSet} (hs : s.layout.Accepted)
    {text : List Char} (h : LaidOut pr.style.language s.tokens text) :
    parse (String.ofList (pr.untilArray w s ++ '=' :: text)) =
      .ok ⟨pr.style.name, pr.style.language, some w, s⟩ := by
  have hcomments : ∀ line ∈ pr.commentLines w, IsLine line := by
    intro line hline
    refine isLine_of_forall_isBreak fun c hc ↦ pr.not_mem_lines hc w s line ?_
    exact List.mem_append_left _ (List.mem_append_left _ hline)
  have hheading : '\n' ∉ pr.style.language.heading pr.style.name.toList s ++ [' '] := by
    have hdeclaration := IsBreak.not_mem_declaration (.inl rfl) pr.style.language pr.isName s
    rw [Language.declaration_eq] at hdeclaration
    exact fun hmem ↦ hdeclaration (List.mem_append_left _ hmem)
  obtain ⟨tail, rest, hlines, htail, wss, hwss, hwords⟩ :=
    h.exists_lines s.breakable_tokens hheading
  have hshape : IsTableShape s.dimensions := by
    refine (layout_eq_ok_iff (s := s).1 ?_).1
    rw [Declaration.layout_dimensions, if_pos hs]
  have hread : readLines (lines (pr.untilArray w s ++ '=' :: text)) =
      .ok ⟨pr.style.name, pr.style.language, some w, s⟩ := by
    rw [Printer.untilArray, List.append_assoc, lines_unlines_append hcomments, hlines, readLines,
      openingOf_commentLines pr w s htail, Declaration.counted, if_pos (length_tables_lt hs)]
    refine finish_eq_ok_iff.2 ⟨hshape, wss, hwss, rfl, rfl, rfl, rfl, ?_⟩
    rw [hwords, s.flatMap_words_tokens]
  rw [parse, read, String.toList_ofList, hread]

/-- **The layout of an array does not matter.**  In every style that passes its check, let blanks be
put in and taken away any number of times, anywhere behind the first equals sign of a listing but
not inside a literal, line feeds included: if the set may be read, the text is read as before, which
is as what was printed. -/
theorem parse_relayout (style : Style) (h : style.check = .ok ()) (w : UInt64) {s : TableSet}
    (hs : s.layout.Accepted) :
    ∃ pr, Printer.ofStyle style = .ok pr ∧
      (pr.render w s).toList = pr.untilArray w s ++ '=' :: pr.arrayText s ∧
      '=' ∉ pr.untilArray w s ∧
      ∀ edited, Relation.ReflTransGen (BlankEdit style.language) (pr.arrayText s) edited →
        parse (String.ofList (pr.untilArray w s ++ '=' :: edited)) = parse (pr.render w s) ∧
          parse (pr.render w s) = .ok ⟨style.name, style.language, some w, s⟩ := by
  have haccepted := style.check_eq_ok_iff.1 h
  let pr : Printer := ⟨style, haccepted⟩
  refine ⟨pr, Printer.ofStyle_eq_ok haccepted, pr.toList_render w s, pr.not_mem_untilArray w s,
    fun edited hedits ↦ ?_⟩
  have hprinted := pr.laidOut_arrayText s
  have hrender : parse (pr.render w s) = .ok ⟨style.name, style.language, some w, s⟩ := by
    rw [← String.ofList_toList (s := pr.render w s), pr.toList_render]
    exact parse_of_laidOut pr w hs hprinted
  exact ⟨(parse_of_laidOut pr w hs (hprinted.of_edits hedits)).trans hrender.symm, hrender⟩

/-- The blank behind the equals sign gives way to a line feed and a wide blank. -/
theorem parse_relayout_wide_blank :
    Style.check ⟨.rust, "T", 4⟩ = .ok () ∧
      (TableSet.single (Vector.replicate 256 7)).layout.Accepted ∧
      ∃ pr, Printer.ofStyle ⟨.rust, "T", 4⟩ = .ok pr ∧ ∃ rest,
        pr.arrayText (.single (Vector.replicate 256 7)) = ' ' :: rest ∧
        parse (String.ofList (pr.untilArray 5 (.single (Vector.replicate 256 7)) ++
            '=' :: '\n' :: '\u3000' :: rest)) =
          .ok ⟨"T", .rust, some 5, .single (Vector.replicate 256 7)⟩ := by
  have hcheck : Style.check ⟨.rust, "T", 4⟩ = .ok () := by decide
  have hs : (TableSet.single (Vector.replicate 256 7)).layout.Accepted := trivial
  obtain ⟨pr, hpr, -, -, hreads⟩ := parse_relayout ⟨.rust, "T", 4⟩ hcheck 5 hs
  obtain ⟨rest, hrest⟩ : ∃ rest,
      pr.arrayText (.single (Vector.replicate 256 7)) = ' ' :: rest := ⟨_, rfl⟩
  have hfront : ∀ b, ¬ CutsLiteral .rust [] b := by
    rintro b ⟨w, u, v, hu, -, -, hsuffix, -⟩
    exact hu (List.suffix_nil.1 hsuffix)
  have hedits : Relation.ReflTransGen (BlankEdit .rust) (' ' :: rest)
      ('\n' :: '\u3000' :: rest) :=
    ((Relation.ReflTransGen.single (.delete (a := []) rfl)).tail
      (.insert (a := []) (c := '\u3000') rfl (hfront _))).tail
      (.insert (a := []) (c := '\n') rfl (hfront _))
  obtain ⟨hsame, hread⟩ := hreads _ (hrest ▸ hedits)
  exact ⟨hcheck, hs, pr, hpr, rest, hrest, hsame.trans hread⟩

end Listing
end CrcTables
