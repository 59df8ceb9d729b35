import CrcTables.Proofs.Listing.Entries
import CrcTables.Proofs.Listing.Respelling
import CrcTables.Proofs.Listing.RoundTrip
import CrcTables.Proofs.Verification

/-!
# Tampering is found

A listing is tampered with if the digits of some of its entries are replaced in its text by digits
that write other values.  However many digits are written, the text is still that of a listing, and
a check reports the first entry that was replaced.

## What is here

* `Replaces` — digits that write another value for an entry.
* `Tampering` — other digits for some entries of a set, and the text with these digits
  (`Tampering.apply`).
* `Tampering.toList_apply_render` — the text that was tampered with, as lines.
* `Tampering.parse_apply_render` — it is read as the set with the new values.
* `Tampering.exists_first` — the first entry that was replaced, by table and then by index.
* `Listing.verify_tampered` — a check reports this entry.
-/

set_option autoImplicit false
namespace CrcTables

open Text Literal

/-- These digits write another value for entry `i` of table `t`. -/
structure Replaces (s : TableSet) (t i : Nat) (digits : List Char) : Prop where
  /-- There are one to sixteen of them. -/
  count : 1 ≤ digits.length ∧ digits.length ≤ 16
  /-- They are hexadecimal digits. -/
  hex : ∀ c ∈ digits, isHexDigit c = true
  /-- The entry exists and is not what they stand for. -/
  differs : ∃ entry ∈ s.wordAt? t i, entry ≠ UInt64.ofNat (ofHex digits)

/-- Other digits for some entries of a set. -/
structure Tampering (s : TableSet) where
  /-- The digits for entry `i` of table `t`, if it is replaced. -/
  digits? : Nat → Nat → Option (List Char)
  /-- They write another value. -/
  replaces : ∀ {t i : Nat} {digits : List Char}, digits? t i = some digits →
    Replaces s t i digits

namespace Tampering

variable {s : TableSet}

theorem mem_of_lookup {changes : List ((Nat × Nat) × List Char)} {place : Nat × Nat}
    {digits : List Char} (h : changes.lookup place = some digits) : (place, digits) ∈ changes := by
  obtain ⟨before, after, rfl, -⟩ := List.lookup_eq_some_iff.1 h
  simp

/-- The entries of a list are replaced, each by the first digits that the list has for it. -/
def ofList (changes : List ((Nat × Nat) × List Char))
    (h : ∀ change ∈ changes, Replaces s change.1.1 change.1.2 change.2) : Tampering s where
  digits? t i := changes.lookup (t, i)
  replaces hdigits := h _ (mem_of_lookup hdigits)

/-! ## The text -/

variable (e : Tampering s)

/-- What is written for literal number `k` of an array; each table has 256 of them. -/
def spell (k : Nat) (digits : List Char) : List Char :=
  (e.digits? (k / 256) (k % 256)).getD digits

/-- The text after tampering: behind its first equals sign the literals of the array get other
digits, literal number `256 * t + i` those for entry `i` of table `t`. -/
def apply (text : String) : String :=
  String.ofList (text.toList.takeWhile (fun c ↦ c != '=') ++
    respell e.spell 0 (text.toList.dropWhile fun c ↦ c != '='))

end Tampering

/-! ## Entries with their numbers -/

/-- The entries of tables with their numbers, table by table; the first has number `k`. -/
def numberedEntries (k : Nat) : List Table → List (List (UInt64 × Nat))
  | [] => []
  | t :: ts => t.toList.zipIdx k :: numberedEntries (k + 256) ts

theorem flatten_numberedEntries (k : Nat) (ts : List Table) :
    (numberedEntries k ts).flatten = (ts.flatMap Vector.toList).zipIdx k := by
  induction ts generalizing k with
  | nil => rfl
  | cons t ts ih =>
    have hlength : t.toList.length = 256 := t.length_toList
    rw [numberedEntries, List.flatten_cons, ih, List.flatMap_cons, List.zipIdx_append, hlength]

/-- The printed entries of tables are their literals. -/
theorem map_printed_numberedEntries (pr : Printer) (k : Nat) (ts : List Table) :
    (numberedEntries k ts).map (List.map (printed pr.style.language)) =
      ts.map pr.entryTexts := by
  induction ts generalizing k with
  | nil => rfl
  | cons t ts ih =>
    have hprinted : (t.toList.zipIdx k).map (printed pr.style.language) = pr.entryTexts t := by
      have hfun : printed pr.style.language = pr.style.language.literal ∘ Prod.fst := rfl
      rw [hfun, ← List.map_map, List.zipIdx_map_fst, Printer.entryTexts]
    rw [numberedEntries, List.map_cons, ih, hprinted, List.map_cons]

/-- Entry `i` of table `t` has number `256 * t + i`. -/
theorem TableSet.getElem?_words (s : TableSet) (t : Nat) {i : Nat} (hi : i < 256) :
    s.words[256 * t + i]? = s.wordAt? t i := by
  rw [words, getElem?_flatMap_toList s.tables t i hi, wordAt?]
  cases s.tables[t]? with
  | none => rfl
  | some table => exact (Vector.getElem?_eq_getElem hi).symm

/-! ## The text that was tampered with -/

namespace Tampering

variable {s : TableSet} (e : Tampering s) (pr : Printer) (w : UInt64)

/-- The lines of the array after tampering. -/
def bodyLines : List (List Char) :=
  ((numberedEntries 0 s.tables).map (List.map (respelled pr.style.language e.spell))).flatMap
    (pr.tableLines s.isNested)

/-- **The text after tampering** has the new digits in its lines and is the same elsewhere. -/
theorem toList_apply_render :
    (e.apply (pr.render w s)).toList = unlines (pr.linesWith w s (e.bodyLines pr)) := by
  -- the first equals sign is that of the declaration, and no literal follows it on its line
  have hbefore := pr.not_mem_untilArray w s
  have hopening : '0' ∉ [' ', pr.style.language.opening] := by
    cases pr.style.language <;> decide
  have hclosing : '0' ∉ [pr.style.language.closing, ';'] ++ ['\n'] := by
    cases pr.style.language <;> decide
  have hnumbered : Numbered 0 (numberedEntries 0 s.tables).flatten := by
    rw [flatten_numberedEntries]
    exact numbered_zipIdx 0 _
  have hbody := pr.respell_flatMap_tableLines e.spell s.isNested hnumbered
    ([pr.style.language.closing, ';'] ++ ['\n'])
  rw [map_printed_numberedEntries, ← Printer.bodyLines_eq, respell_of_not_mem hclosing] at hbody
  rw [apply, Printer.render, Printer.lines_eq, String.toList_ofList, String.toList_ofList,
    pr.unlines_linesWith, takeWhile_ne_append_cons hbefore, dropWhile_ne_append_cons hbefore,
    Printer.arrayWith, respell_cons (by decide), respell_line hopening, hbody,
    pr.unlines_linesWith]
  rfl

/-! ## The values -/

/-- The value at the place of literal number `k`, after tampering. -/
def value (k : Nat) (w : UInt64) : UInt64 :=
  match e.digits? (k / 256) (k % 256) with
  | some digits => UInt64.ofNat (ofHex digits)
  | none => w

/-- What is written is read as the value. -/
theorem word?_spell (k : Nat) (w : UInt64) : word? (e.spell k (word16 w)) = some (e.value k w) := by
  cases hdigits : e.digits? (k / 256) (k % 256) with
  | none => simp only [spell, value, hdigits, Option.getD_none, word?_word16]
  | some digits =>
    simp only [spell, value, hdigits, Option.getD_some]
    exact word?_eq_some_iff.2 ⟨(e.replaces hdigits).count, (e.replaces hdigits).hex, rfl⟩

/-- The words of the set after tampering. -/
def words : List UInt64 := s.words.zipIdx.map fun (w, k) ↦ e.value k w

/-- The lines of the array hold these words. -/
theorem exists_carries_bodyLines :
    ∃ wss, List.Forall₂ Listing.Carries (e.bodyLines pr) wss ∧ wss.flatten = e.words := by
  have hspells : List.Forall₂ (List.Forall₂ (Spells pr.style.language))
      ((numberedEntries 0 s.tables).map (List.map (respelled pr.style.language e.spell)))
      ((numberedEntries 0 s.tables).map (List.map fun (w, k) ↦ e.value k w)) := by
    rw [List.forall₂_map_left_iff, List.forall₂_map_right_iff, List.forall₂_same]
    intro es _
    rw [List.forall₂_map_left_iff, List.forall₂_map_right_iff, List.forall₂_same]
    exact fun entry _ ↦ ⟨_, e.word?_spell entry.2 entry.1, rfl⟩
  refine ⟨_, pr.carries_flatMap_tableLines s.isNested hspells, ?_⟩
  rw [pr.flatten_flatMap_tableWords, ← List.map_flatten, flatten_numberedEntries]
  rfl

theorem not_mem_bodyLines {c : Char} (hc : IsBreak c) : ∀ l ∈ e.bodyLines pr, c ∉ l := by
  refine pr.not_mem_flatMap_tableLines hc s.isNested fun texts htexts text htext ↦ ?_
  obtain ⟨es, -, rfl⟩ := List.mem_map.1 htexts
  obtain ⟨entry, -, rfl⟩ := List.mem_map.1 htext
  have hdigits : c ∉ e.spell entry.2 (word16 entry.1) := fun hmem ↦
    ne_of_isIdentifierPart (isIdentifierPart_of_isHexDigit
      (forall_isHexDigit_of_word? (e.word?_spell entry.2 entry.1) c hmem))
      hc.isIdentifierPart_eq_false rfl
  have hmark : c ∉ ['0', 'x'] := hc.not_mem (by decide)
  exact List.not_mem_append hmark
    (List.not_mem_append hdigits (hc.not_mem (by cases pr.style.language <;> decide)))

/-- **The text after tampering is read** as a set in the same layout, with the new values. -/
theorem parse_apply_render (h : s.layout.Accepted) :
    ∃ s' : TableSet, s'.layout = s.layout ∧ s'.words = e.words ∧
      Listing.parse (e.apply (pr.render w s)) =
        .ok ⟨pr.style.name, pr.style.language, some w, s'⟩ := by
  have hshape : s.dimensions = [Table.size] ∨ ∃ n, s.dimensions = [n, Table.size] := by
    cases s with
    | single t => exact .inl rfl
    | sliced ts => exact .inr ⟨ts.length, rfl⟩
  have hcount : e.words.length = s.dimensions.prod := by
    rw [words, List.length_map, List.length_zipIdx, Listing.length_words]
  obtain ⟨s', hdims, hwords⟩ := Listing.exists_words_eq hshape hcount
  have hlayout : s'.layout = s.layout := Listing.layout_eq_of_dimensions hdims
  obtain ⟨wss, hcarries, hflatten⟩ := e.exists_carries_bodyLines pr
  refine ⟨s', hlayout, hwords, ?_⟩
  have hlines : Text.lines (e.apply (pr.render w s)).toList =
      pr.linesWith w s (e.bodyLines pr) := by
    rw [toList_apply_render]
    exact lines_unlines fun l hl ↦ isLine_of_forall_isBreak fun c hc ↦
      pr.not_mem_linesWith hc w s (e.not_mem_bodyLines pr hc) l hl
  rw [Listing.parse, Listing.read, hlines,
    Listing.readLines_linesWith pr w (hlayout ▸ h) hdims hcarries (hflatten.trans hwords.symm)]

/-- Where nothing is replaced, the entry is the same; elsewhere it is what was written. -/
theorem wordAt?_of_words {s' : TableSet} (hwords : s'.words = e.words) (t i : Nat) :
    s'.wordAt? t i = (s.wordAt? t i).map fun w ↦ (e.digits? t i).elim w fun digits ↦
      UInt64.ofNat (ofHex digits) := by
  by_cases hi : i < 256
  · have ht : (256 * t + i) / 256 = t := by omega
    have hi' : (256 * t + i) % 256 = i := by omega
    rw [← s'.getElem?_words t hi, hwords, words, List.getElem?_map, List.getElem?_zipIdx,
      s.getElem?_words t hi, Option.map_map]
    congr 1
    funext w
    simp only [Function.comp, value, Nat.zero_add, ht, hi']
    cases e.digits? t i <;> rfl
  · rw [TableSet.wordAt?_eq_none (by omega), TableSet.wordAt?_eq_none (by omega), Option.map_none]

/-! ## The first entry that was replaced -/

/-- **There is a first entry that was replaced**, by table and then by index. -/
theorem exists_first (h : ∃ t i, e.digits? t i ≠ none) :
    ∃ t i digits, e.digits? t i = some digits ∧
      ∀ t' i', t' < t ∨ t' = t ∧ i' < i → e.digits? t' i' = none := by
  obtain ⟨t, i, hne, hbefore⟩ := exists_first_place h
  obtain ⟨digits, hdigits⟩ := Option.ne_none_iff_exists'.1 hne
  exact ⟨t, i, digits, hdigits, fun t' i' hlt ↦ not_not.1 (hbefore t' i' hlt)⟩

end Tampering

/-! ## The verdict -/

namespace Listing

/-- **Tampering is found, at the first place.**  If some entries of a listing of generated tables
are replaced in its text by other values, then the text is read, and a check against the polynomial
and the layout reports the first entry that was replaced, with the generated value and the value
that was written. -/
theorem verify_tampered (pr : Printer) (p : UInt64) {layout : Layout} (h : layout.Accepted) :
    ∃ s, TableSet.generate p layout = .ok s ∧
      ∀ e : Tampering s, (∃ t i, e.digits? t i ≠ none) →
        ∃ l, parse (e.apply (pr.render p s)) = .ok l ∧
          ∃ t i digits entry, e.digits? t i = some digits ∧
            (∀ t' i', t' < t ∨ t' = t ∧ i' < i → e.digits? t' i' = none) ∧
            s.wordAt? t i = some entry ∧
            l.verify p layout =
              .error (.staleEntry t i entry (UInt64.ofNat (ofHex digits))) := by
  obtain ⟨s, hs⟩ := TableSet.exists_generate_eq_ok h p
  refine ⟨s, hs, fun e hne ↦ ?_⟩
  obtain ⟨-, hlayout⟩ := TableSet.layout_of_generate hs
  obtain ⟨s', hlayout', hwords, hparse⟩ := e.parse_apply_render pr p (hlayout ▸ h)
  have hlength : s'.tables.length = s.tables.length := by
    rw [← s'.tableCount_layout, hlayout', s.tableCount_layout]
  obtain ⟨t, i, digits, hdigits, hbefore⟩ := e.exists_first hne
  obtain ⟨entry, hentry, hdiffers⟩ := (e.replaces hdigits).differs
  have hfound : s'.wordAt? t i = some (UInt64.ofNat (ofHex digits)) := by
    rw [e.wordAt?_of_words hwords, hentry, hdigits]
    rfl
  have hsame : ∀ t' i', t' < t ∨ t' = t ∧ i' < i → s.wordAt? t' i' = s'.wordAt? t' i' := by
    intro t' i' hlt
    rw [e.wordAt?_of_words hwords, hbefore t' i' hlt]
    cases s.wordAt? t' i' <;> rfl
  refine ⟨_, hparse, t, i, digits, entry, hdigits, hbefore, hentry, ?_⟩
  rw [verify_eq_compare rfl (hlayout'.trans hlayout) hs]
  exact TableSet.compare_of_wordAt? hlength.symm hentry hfound hdiffers hsame

/-- The polynomial zero has only zeros in its table; two of them become fifteens. -/
theorem verify_tampered_zeros :
    Layout.single.Accepted ∧ ∃ (pr : Printer) (s : TableSet) (e : Tampering s) (l : Listing),
      TableSet.generate 0 .single = .ok s ∧
        e.digits? 0 3 = some ['0', 'F'] ∧ e.digits? 0 200 = some ['f'] ∧
        parse (e.apply (pr.render 0 s)) = .ok l ∧
        l.verify 0 .single = .error (.staleEntry 0 3 0 15) := by
  have haccepted : Layout.single.Accepted := trivial
  have hstyle : Style.Accepted ⟨.c, "crc_table", 2⟩ := by decide
  have hfirst : (TableSet.single (Table.base 0)).wordAt? 0 3 = some 0 :=
    TableSet.wordAt?_base 0 (by decide)
  have hsecond : (TableSet.single (Table.base 0)).wordAt? 0 200 = some 0 :=
    TableSet.wordAt?_base 0 (by decide)
  have hchanges : ∀ change ∈ [((0, 200), ['f']), ((0, 3), ['0', 'F'])],
      Replaces (.single (Table.base 0)) change.1.1 change.1.2 change.2 := by
    have hf : ∀ c ∈ ['f'], isHexDigit c = true := List.forall_mem_singleton.2 rfl
    have hzeroF : ∀ c ∈ ['0', 'F'], isHexDigit c = true :=
      List.forall_mem_cons.2 ⟨rfl, List.forall_mem_singleton.2 rfl⟩
    refine List.forall_mem_cons.2 ⟨⟨by decide, hf, 0, hsecond, by decide⟩, ?_⟩
    exact List.forall_mem_singleton.2 ⟨by decide, hzeroF, 0, hfirst, by decide⟩
  obtain ⟨s, hs, hreport⟩ := verify_tampered ⟨_, hstyle⟩ 0 haccepted
  obtain rfl : TableSet.single (Table.base 0) = s := Except.ok.inj hs
  have hfourth : (Tampering.ofList _ hchanges).digits? 0 3 = some ['0', 'F'] := rfl
  obtain ⟨l, hl, t, i, digits, entry, hdigits, hbefore, hentry, hverdict⟩ :=
    hreport (.ofList _ hchanges) ⟨0, 3, by simp [hfourth]⟩
  have hplace := Tampering.mem_of_lookup hdigits
  simp only [List.mem_cons, List.not_mem_nil, or_false, Prod.mk.injEq] at hplace
  obtain ⟨⟨rfl, rfl⟩, rfl⟩ | ⟨⟨rfl, rfl⟩, rfl⟩ := hplace
  · have hnone := hbefore 0 3 (.inr ⟨rfl, by decide⟩)
    rw [hfourth] at hnone
    exact absurd hnone (Option.some_ne_none _)
  · have hvalue : UInt64.ofNat (ofHex ['0', 'F']) = 15 := by decide
    obtain rfl : entry = 0 := Option.some.inj (hentry.symm.trans hfirst)
    rw [hvalue] at hverdict
    exact ⟨haccepted, _, _, .ofList _ hchanges, l, hs, hfourth, rfl, hl, hverdict⟩

end Listing
end CrcTables
