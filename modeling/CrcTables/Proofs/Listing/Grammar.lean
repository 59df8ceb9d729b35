import CrcTables.Proofs.Listing.Entries
import CrcTables.Proofs.Listing.Opening

/-!
# The grammar of listings

Which texts are read can be said without the reader: a text has a first line that declares an array,
the lines before it record polynomials or do not matter, and behind its equals sign stand as many
literals as the dimensions say.  The reader accepts exactly these texts, and what it returns is what
they say.

## What is here

* `Listing.IsLabel`, `Listing.IsDeclaration`, `Listing.Records` — what a line can be before the
  array.
* `Listing.openingOf_eq_ok_iff` — which texts have a declaration that is found and read.
* `Listing.Parts`, `Listing.Parts.Of`, `Listing.Parts.Gives` — the parts of a text that can be read,
  and the listing that they give.
* `Listing.parse_eq_ok_iff` — a text is read exactly if it has such parts, and as what they give.
-/

set_option autoImplicit false
namespace CrcTables
namespace Listing

open Text

/-! ## Lines before the array -/

/-- A line with the label of a polynomial. -/
def IsLabel (l : List Char) : Prop := polynomialLabel.toList <:+: l

instance : DecidablePred IsLabel := fun l ↦
  inferInstanceAs (Decidable (polynomialLabel.toList <:+: l))

/-- A line that declares an array: it is no label, and it starts, behind blanks, like a
declaration. -/
def IsDeclaration (l : List Char) : Prop :=
  ¬ IsLabel l ∧ ("static ".toList <+: trimStart l ∨ "pub static ".toList <+: trimStart l)

/-- A line with a label records a polynomial: what follows the first label spells it, without the
blanks around it, the ends of comments behind it, and the blanks before those. -/
def Records (l : List Char) (p : UInt64) : Prop :=
  ∃ tail, FollowsFirst polynomialLabel.toList l tail ∧
    Generator.parse (String.ofList (trim (stripCommentEnds (trim tail)))) = .ok p

theorem polynomialLabel_ne_nil : polynomialLabel.toList ≠ [] := by decide

theorem after?_label_eq_none_iff {l : List Char} :
    after? polynomialLabel.toList l = none ↔ ¬ IsLabel l :=
  after?_eq_none_iff polynomialLabel_ne_nil

theorem startsDeclaration_eq_true_iff {l : List Char} :
    startsDeclaration l = true ↔
      "static ".toList <+: trimStart l ∨ "pub static ".toList <+: trimStart l := by
  simp only [startsDeclaration, Bool.or_eq_true, List.isPrefixOf_iff_prefix]

theorem records_iff {l tail : List Char} {p : UInt64}
    (h : after? polynomialLabel.toList l = some tail) :
    Records l p ↔ Generator.read? (recordedText tail) = some p := by
  have hparse : ∀ text : List Char,
      Generator.parse (String.ofList text) = .ok p ↔ Generator.read? text = some p := by
    intro text
    rw [Generator.parse, String.toList_ofList]
    cases Generator.read? text <;> simp
  rw [after?_eq_some_iff polynomialLabel_ne_nil] at h
  constructor
  · rintro ⟨tail', htail', hp⟩
    rw [htail'.unique h] at hp
    exact (hparse _).1 hp
  · intro hp
    exact ⟨tail, h, (hparse _).2 hp⟩

/-! ## The text up to the array -/

/-- The parts of a text up to its array, with the lines that follow. -/
structure Preamble where
  /-- The lines before the declaration. -/
  before : List (List Char)
  /-- The polynomials recorded on them, in order. -/
  recorded : List UInt64
  /-- The line of the declaration before its first equals sign. -/
  head : List Char
  /-- What is declared there. -/
  declaration : Declaration
  /-- The rest of that line. -/
  initializer : List Char
  /-- The lines behind it. -/
  following : List (List Char)

namespace Preamble

/-- These are the parts of some lines: the declaration is on the first line that declares an array,
it has an equals sign and can be read, and every label before it records a polynomial. -/
structure Of (x : Preamble) (ls : List (List Char)) : Prop where
  /-- The lines are put together from the parts. -/
  lines : ls = x.before ++ (x.head ++ '=' :: x.initializer) :: x.following
  /-- No line before the declaration declares an array. -/
  first : ∀ l ∈ x.before, ¬ IsDeclaration l
  /-- The line of the declaration does. -/
  declares : IsDeclaration (x.head ++ '=' :: x.initializer)
  /-- Every label before the declaration records a polynomial. -/
  labels : List.Forall₂ Records (x.before.filter fun l ↦ IsLabel l) x.recorded
  /-- The equals sign is the first one of the line. -/
  equals : '=' ∉ x.head
  /-- What stands before it can be read. -/
  declaration : Declaration.read x.head = .ok x.declaration

/-- What the search for the declaration finds, from the line with the given number on. -/
def opening (x : Preamble) (recorded? : Option UInt64) (line : Nat) : Opening :=
  ⟨x.recorded.getLast?.or recorded?, line + x.before.length, x.declaration, x.initializer,
    x.following⟩

/-- A line without a label only moves the declaration one line on. -/
theorem opening_cons_skip (x : Preamble) (l : List Char) (recorded? : Option UInt64)
    (line : Nat) :
    opening { x with before := l :: x.before } recorded? line = x.opening recorded? (line + 1) := by
  simp only [opening, List.length_cons, Nat.add_assoc, Nat.add_comm 1]

/-- A label counts if no other follows it before the declaration. -/
theorem opening_cons_label (x : Preamble) (l : List Char) (p : UInt64)
    (recorded? : Option UInt64) (line : Nat) :
    opening { x with before := l :: x.before, recorded := p :: x.recorded } recorded? line =
      x.opening (some p) (line + 1) := by
  have hlast : (p :: x.recorded).getLast?.or recorded? = x.recorded.getLast?.or (some p) := by
    cases hrecorded : x.recorded.getLast? <;> simp [List.getLast?_cons, hrecorded]
  simp only [opening, hlast, List.length_cons, Nat.add_assoc, Nat.add_comm 1]

section Of

variable {x : Preamble} {l : List Char} {ls : List (List Char)}

/-- The first line of a text may be its declaration. -/
theorem of_declaration {head tail : List Char} {d : Declaration}
    (hl : IsDeclaration (head ++ '=' :: tail)) (hequals : '=' ∉ head)
    (hd : Declaration.read head = .ok d) (rest : List (List Char)) :
    Of ⟨[], [], head, d, tail, rest⟩ ((head ++ '=' :: tail) :: rest) where
  lines := rfl
  first := List.forall_mem_nil _
  declares := hl
  labels := .nil
  equals := hequals
  declaration := hd

/-- A label is one more line before the declaration. -/
theorem Of.cons_label {p : UInt64} (h : x.Of ls) (hl : IsLabel l) (hp : Records l p) :
    Of { x with before := l :: x.before, recorded := p :: x.recorded } (l :: ls) where
  lines := congrArg (l :: ·) h.lines
  first := List.forall_mem_cons.2 ⟨fun hd ↦ hd.1 hl, h.first⟩
  declares := h.declares
  labels := by
    rw [List.filter_cons_of_pos (by simpa using hl)]
    exact .cons hp h.labels
  equals := h.equals
  declaration := h.declaration

/-- So is a line that neither is a label nor declares an array. -/
theorem Of.cons_skip (h : x.Of ls) (hl : ¬ IsLabel l) (hd : ¬ IsDeclaration l) :
    Of { x with before := l :: x.before } (l :: ls) where
  lines := congrArg (l :: ·) h.lines
  first := List.forall_mem_cons.2 ⟨hd, h.first⟩
  declares := h.declares
  labels := by
    rw [List.filter_cons_of_neg (by simpa using hl)]
    exact h.labels
  equals := h.equals
  declaration := h.declaration

end Of
end Preamble

/-- What the search for the declaration finds are the parts of the text. -/
theorem exists_preamble_of_openingOf {recorded? : Option UInt64} {line : Nat}
    {ls : List (List Char)} {o : Opening} (h : openingOf recorded? line ls = .ok o) :
    ∃ x : Preamble, x.Of ls ∧ x.opening recorded? line = o := by
  induction ls generalizing recorded? line with
  | nil => contradiction
  | cons l rest ih =>
    rw [openingOf] at h
    split at h
    · next tail hlabel =>
      have hl : IsLabel l := by
        by_contra hl
        rw [after?_label_eq_none_iff.2 hl] at hlabel
        contradiction
      split at h
      · next p hp =>
        obtain ⟨x, hx, rfl⟩ := ih h
        exact ⟨_, hx.cons_label hl ((records_iff hlabel).2 hp), x.opening_cons_label l p _ line⟩
      · contradiction
    · next hlabel =>
      have hl := after?_label_eq_none_iff.1 hlabel
      split at h
      · next hstart =>
        split at h
        · contradiction
        · next c tail hcut =>
          split at h
          · contradiction
          · next d hd =>
            obtain rfl := Except.ok.inj h
            have hdeclares : IsDeclaration l := ⟨hl, startsDeclaration_eq_true_iff.1 hstart⟩
            have hline := takeWhile_ne_append_of_dropWhile hcut
            rw [← hline] at hdeclares
            have hparts := Preamble.of_declaration hdeclares (not_mem_takeWhile_ne '=' l) hd rest
            rw [hline] at hparts
            exact ⟨_, hparts, rfl⟩
      · next hstart =>
        obtain ⟨x, hx, rfl⟩ := ih h
        exact ⟨_, hx.cons_skip hl fun hd ↦ hstart (startsDeclaration_eq_true_iff.2 hd.2),
          x.opening_cons_skip l _ line⟩

/-- The parts of a text are what the search for the declaration finds. -/
theorem openingOf_eq_ok_of_preamble {x : Preamble} {ls : List (List Char)} (h : x.Of ls)
    (recorded? : Option UInt64) (line : Nat) :
    openingOf recorded? line ls = .ok (x.opening recorded? line) := by
  obtain ⟨before, recorded, head, d, initializer, following⟩ := x
  obtain ⟨hlines, hfirst, hdeclares, hlabels, hequals, hd⟩ := h
  subst hlines
  simp only at hfirst hdeclares hlabels hequals hd
  induction before generalizing recorded recorded? line with
  | nil =>
    obtain rfl := List.forall₂_nil_left_iff.1 hlabels
    have hlabel := after?_label_eq_none_iff.2 hdeclares.1
    have hstart := startsDeclaration_eq_true_iff.2 hdeclares.2
    simp only [List.nil_append]
    rw [openingOf_cons_declaration hlabel hstart hequals, hd]
    rfl
  | cons l before ih =>
    rw [List.forall_mem_cons] at hfirst
    simp only [List.cons_append] at ih ⊢
    by_cases hl : IsLabel l
    · rw [List.filter_cons_of_pos (by simpa using hl)] at hlabels
      obtain ⟨p, recorded', hp, hlabels', rfl⟩ := List.forall₂_cons_left_iff.1 hlabels
      obtain ⟨tail, htail⟩ := Option.ne_none_iff_exists'.1
        fun hnone ↦ after?_label_eq_none_iff.1 hnone hl
      rw [openingOf_cons_label htail ((records_iff htail).1 hp), ih _ _ _ hfirst.2 hlabels',
        ← Preamble.opening_cons_label _ l]
    · rw [List.filter_cons_of_neg (by simpa using hl)] at hlabels
      have hstart : startsDeclaration l = false := by
        rw [← Bool.not_eq_true, startsDeclaration_eq_true_iff]
        exact fun hstart ↦ hfirst.1 ⟨hl, hstart⟩
      rw [openingOf_cons_skip (after?_label_eq_none_iff.2 hl) hstart, ih _ _ _ hfirst.2 hlabels,
        ← Preamble.opening_cons_skip _ l]

/-- **The search for the declaration succeeds exactly on the texts that have one**, and finds their
parts. -/
theorem openingOf_eq_ok_iff {recorded? : Option UInt64} {line : Nat} {ls : List (List Char)}
    {o : Opening} :
    openingOf recorded? line ls = .ok o ↔
      ∃ x : Preamble, x.Of ls ∧ x.opening recorded? line = o := by
  refine ⟨exists_preamble_of_openingOf, ?_⟩
  rintro ⟨x, hx, rfl⟩
  exact openingOf_eq_ok_of_preamble hx recorded? line

/-! ## The array -/

/-- The dimensions of the arrays that are read: those of a table, or of a set of 1 to 64 tables. -/
def IsTableShape (dims : List Nat) : Prop :=
  dims = [256] ∨ ∃ n, 1 ≤ n ∧ n ≤ 64 ∧ dims = [n, 256]

/-- A layout is read from the dimensions of a set in this layout, if the set may be read. -/
theorem layout_eq_ok_iff {dims : List Nat} {s : TableSet} :
    Declaration.layout dims = .ok s.layout ↔ IsTableShape dims ∧ s.dimensions = dims := by
  constructor
  · intro h
    unfold Declaration.layout at h
    split at h
    · next n =>
      split at h
      · next hn =>
        subst hn
        cases s with
        | single t => exact ⟨.inl rfl, rfl⟩
        | sliced ts => cases h
      · contradiction
    · next count n =>
      split at h
      · next hn =>
        subst hn
        split at h
        · next hcount =>
          cases s with
          | single t => cases h
          | sliced ts =>
            obtain rfl : count = ts.length := by simpa [TableSet.layout] using h
            exact ⟨.inr ⟨_, hcount.1, hcount.2, rfl⟩, rfl⟩
        · contradiction
      · contradiction
    · contradiction
  · rintro ⟨hshape, rfl⟩
    rw [Declaration.layout_dimensions, if_pos]
    cases s with
    | single t => trivial
    | sliced ts =>
      rcases hshape with hdims | ⟨n, hone, hmax, hdims⟩
      · simp [TableSet.dimensions] at hdims
      · obtain rfl : ts.length = n := (List.cons.inj hdims).1
        exact ⟨hone, hmax⟩

/-- The parts of a text that can be read. -/
structure Parts extends Preamble where
  /-- The words of the array, line by line. -/
  words : List (List UInt64)

namespace Parts

/-- The lines of the array: the rest of the line of the declaration, and the lines behind it up to
the first that closes the array. -/
def body (x : Parts) : List (List Char) := x.initializer :: throughClosing x.following

/-- These are the parts of some lines: the array is a table or a set of tables, each of its lines
has literals, and they are as many as the dimensions say. -/
structure Of (x : Parts) (ls : List (List Char)) : Prop where
  /-- The lines go up to the array. -/
  preamble : x.toPreamble.Of ls
  /-- The array is a table or a set of tables. -/
  shape : IsTableShape x.declaration.dimensions
  /-- The words are those of the literals. -/
  literals : List.Forall₂ Literal.Has x.body x.words
  /-- There are as many as the dimensions say. -/
  count : x.words.flatten.length = x.declaration.dimensions.prod

/-- The listing says what the parts say: the name and the language of the declaration, the
polynomial of the last label before it, and the words in order, a table for each 256. -/
structure Gives (x : Parts) (l : Listing) : Prop where
  /-- The name is the declared one. -/
  name : l.name = x.declaration.name
  /-- The language is that of the declaration. -/
  language : l.language = x.declaration.language
  /-- The last label counts. -/
  polynomial : l.polynomial? = x.recorded.getLast?
  /-- The tables are nested as declared. -/
  dimensions : l.tables.dimensions = x.declaration.dimensions
  /-- Their entries are the words. -/
  words : l.tables.words = x.words.flatten

end Parts

/-- **The array is read exactly if its shape and its lines can be**, and gives the words. -/
theorem finish_eq_ok_iff {o : Opening} {l : Listing} :
    finish o = .ok l ↔
      IsTableShape o.declaration.dimensions ∧
        ∃ wss, List.Forall₂ Literal.Has (o.initializer :: throughClosing o.following) wss ∧
          l.name = o.declaration.name ∧ l.language = o.declaration.language ∧
          l.polynomial? = o.polynomial? ∧ l.tables.dimensions = o.declaration.dimensions ∧
          l.tables.words = wss.flatten := by
  constructor
  · intro h
    unfold finish at h
    split at h
    · contradiction
    · next layout hlayout =>
      split at h
      · contradiction
      · next first hfirst =>
        split at h
        · contradiction
        · next last words hread =>
          split at h
          · next s hfit =>
            obtain rfl := Except.ok.inj h
            obtain ⟨rfl, hwords⟩ := fit?_eq_some_iff.1 hfit
            obtain ⟨hshape, hdims⟩ := layout_eq_ok_iff.1 hlayout
            obtain ⟨ws, hws, rfl⟩ := scanLine_eq_ok_iff.1 hfirst
            obtain ⟨wss, hwss, rfl⟩ := readEntries_eq_ok_iff.1 ⟨last, hread⟩
            exact ⟨hshape, ws :: wss, .cons hws hwss, rfl, rfl, rfl, hdims, by simp [hwords]⟩
          · contradiction
  · rintro ⟨hshape, _, hlines, hname, hlanguage, hpolynomial, hdims, hwords⟩
    obtain ⟨name, language, polynomial?, s⟩ := l
    obtain ⟨ws, wss, hws, hwss, rfl⟩ := List.forall₂_cons_left_iff.1 hlines
    have hlayout : Declaration.layout o.declaration.dimensions = .ok s.layout :=
      layout_eq_ok_iff.2 ⟨hshape, hdims⟩
    have hfirst : scanLine o.line o.initializer #[] = .ok (#[] ++ ws.toArray) :=
      scanLine_of_holds hws.holds o.line #[]
    obtain ⟨last, hread⟩ : ∃ last, readEntries o.line (#[] ++ ws.toArray) o.following =
        .ok (last, #[] ++ ws.toArray ++ wss.flatten.toArray) :=
      readEntries_eq_ok_iff.2 ⟨wss, hwss, rfl⟩
    have hfit : fit? (#[] ++ ws.toArray ++ wss.flatten.toArray) s.layout = some s :=
      fit?_eq_some_iff.2 ⟨rfl, by simpa using hwords⟩
    simp only at hname hlanguage hpolynomial
    rw [finish, hlayout]
    simp only [hfirst, hread, hfit, hname, hlanguage, hpolynomial]

/-- The parts of a text give a listing. -/
theorem Parts.Of.exists_gives {x : Parts} {ls : List (List Char)} (h : x.Of ls) :
    ∃ l : Listing, x.Gives l := by
  have hdims : x.declaration.dimensions = [Table.size] ∨
      ∃ n, x.declaration.dimensions = [n, Table.size] := by
    rcases h.shape with hdims | ⟨n, -, -, hdims⟩
    · exact .inl hdims
    · exact .inr ⟨n, hdims⟩
  obtain ⟨s, hs, hwords⟩ := exists_words_eq hdims h.count
  exact ⟨⟨x.declaration.name, x.declaration.language, x.recorded.getLast?, s⟩,
    rfl, rfl, rfl, hs, hwords⟩

/-- **Lines are read exactly if they have the parts of a listing**, and as what these give. -/
theorem readLines_eq_ok_iff {ls : List (List Char)} {l : Listing} :
    readLines ls = .ok l ↔ ∃ x : Parts, x.Of ls ∧ x.Gives l := by
  constructor
  · intro h
    unfold readLines at h
    split at h
    · contradiction
    · next o ho =>
      obtain ⟨x, hx, rfl⟩ := openingOf_eq_ok_iff.1 ho
      obtain ⟨hshape, wss, hwss, hname, hlanguage, hpolynomial, hdims, hwords⟩ :=
        finish_eq_ok_iff.1 h
      have hcount : wss.flatten.length = x.declaration.dimensions.prod := by
        rw [← hwords, length_words, hdims]
        rfl
      refine ⟨⟨x, wss⟩, ⟨hx, hshape, hwss, hcount⟩, hname, hlanguage, ?_, hdims, hwords⟩
      rw [hpolynomial]
      exact Option.or_none
  · rintro ⟨x, hx, hl⟩
    rw [readLines, openingOf_eq_ok_of_preamble hx.preamble]
    refine finish_eq_ok_iff.2 ⟨hx.shape, x.words, hx.literals, hl.name, hl.language, ?_,
      hl.dimensions, hl.words⟩
    rw [hl.polynomial]
    exact Option.or_none.symm

theorem parse_eq_ok_iff_readLines {text : String} {l : Listing} :
    parse text = .ok l ↔ readLines (Text.lines text.toList) = .ok l := by
  rw [parse, read]
  cases readLines (Text.lines text.toList) <;> simp

/-- **Reading accepts exactly the grammar and loses nothing.**  A text is read if and only if its
lines have the parts of a listing, and what is read is what these parts give. -/
theorem parse_eq_ok_iff (text : String) :
    ((∃ l, parse text = .ok l) ↔ ∃ x : Parts, x.Of (Text.lines text.toList)) ∧
      ∀ l, parse text = .ok l ↔ ∃ x : Parts, x.Of (Text.lines text.toList) ∧ x.Gives l := by
  have hparse : ∀ l, parse text = .ok l ↔
      ∃ x : Parts, x.Of (Text.lines text.toList) ∧ x.Gives l := fun l ↦ by
    rw [parse_eq_ok_iff_readLines, readLines_eq_ok_iff]
  refine ⟨⟨?_, ?_⟩, hparse⟩
  · rintro ⟨l, hl⟩
    obtain ⟨x, hx, -⟩ := (hparse l).1 hl
    exact ⟨x, hx⟩
  · rintro ⟨x, hx⟩
    obtain ⟨l, hl⟩ := hx.exists_gives
    exact ⟨l, (hparse l).2 ⟨x, hx, hl⟩⟩

end Listing
end CrcTables
