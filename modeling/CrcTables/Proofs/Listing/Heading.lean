import CrcTables.Listing.Declaration
import CrcTables.Listing.Printer
import CrcTables.Proofs.Text.Blank
import CrcTables.Proofs.Text.Digits
import CrcTables.Proofs.Text.Search

/-!
# The heading of a listing is read back

The heading of a declaration is made of a storage class and a type, the name of the array, and its
dimensions.  It is read by cutting at the first mark of a language and at the marks between the
dimensions, so what has to be shown is that none of these marks stands elsewhere.

## What is here

* `Language.heading_eq` — the heading of both languages in one form.
* `Declaration.readDimension_decimal` — a dimension is read back if it is a count.
* `TableSet.dimensions`, `Declaration.layout_dimensions` — the dimensions of a set, and when they
  are accepted.
* `Declaration.read_heading` — the name, the language and the dimensions are read back; a set with
  too many tables to count is refused for its number of tables.
-/

set_option autoImplicit false
namespace CrcTables

open Text

/-! ## Names -/

/-- What an identifier consists of. -/
structure IsName (name : List Char) : Prop where
  /-- It is not empty. -/
  ne_nil : name ≠ []
  /-- It has only letters, digits and underscores. -/
  part : ∀ c ∈ name, isIdentifierPart c = true

theorem isName_of_isIdentifier {name : String} (h : isIdentifier name = true) :
    IsName name.toList := by
  rw [isIdentifier] at h
  cases hname : name.toList with
  | nil => simp [hname] at h
  | cons c rest =>
    simp only [hname, Bool.and_eq_true, List.all_eq_true] at h
    refine ⟨List.cons_ne_nil c rest, fun d hd ↦ ?_⟩
    rcases List.mem_cons.1 hd with rfl | hd
    · have hstart : d.isAlpha = true ∨ d = '_' := by simpa [isIdentifierStart] using h.1.1
      rcases hstart with halpha | rfl
      · simp [isIdentifierPart, Char.isAlphanum, halpha]
      · rfl
    · exact h.1.2 d hd

theorem Printer.isName (pr : Printer) : IsName pr.style.name.toList :=
  isName_of_isIdentifier pr.accepted.2.1

section IsName

variable {name : List Char}

theorem IsName.isBlank_eq_false (h : IsName name) : ∀ c ∈ name, isBlank c = false :=
  fun c hc ↦ isBlank_of_isIdentifierPart (h.part c hc)

/-- No mark stands in a name. -/
theorem IsName.not_mem (h : IsName name) {c : Char} (hc : isIdentifierPart c = false) :
    c ∉ name := by
  intro hmem
  exact ne_of_isIdentifierPart (h.part c hmem) hc rfl

end IsName

/-! ## The parts of a heading -/

namespace Language

/-- What stands before the name, up to the blank. -/
def storage : Language → String
  | c => "static const unsigned long long"
  | rust => "pub static"

/-- The mark behind the name. -/
def mark : Language → Char
  | c => '['
  | rust => ':'

/-- What stands behind that mark. -/
def shape (l : Language) (s : TableSet) : List Char :=
  let inner := decimal Table.size
  let outer := decimal s.tables.length
  match l, s.isNested with
  | c, false => inner ++ [']']
  | c, true => outer ++ ']' :: '[' :: inner ++ [']']
  | rust, false => " [u64; ".toList ++ inner ++ [']']
  | rust, true => " [[u64; ".toList ++ inner ++ ']' :: ';' :: ' ' :: outer ++ [']']

/-- **A heading**: storage class and type, name, dimensions. -/
theorem heading_eq (l : Language) (name : List Char) (s : TableSet) :
    l.heading name s = l.storage.toList ++ ' ' :: name ++ l.mark :: l.shape s := by
  cases l <;> cases s <;>
    simp only [heading, storage, mark, shape, TableSet.isNested, String.reduceToList,
      List.cons_append, List.nil_append, List.append_assoc]

/-- No mark stands before the mark behind the name. -/
theorem not_mem_before {name : List Char} (h : IsName name) {c : Char}
    (hc : isIdentifierPart c = false) (hblank : c ≠ ' ') (l : Language) :
    c ∉ l.storage.toList ++ ' ' :: name := by
  have hstorage : l.storage.toList.all (fun d ↦ isIdentifierPart d || d == ' ') = true := by
    cases l <;> rfl
  refine List.not_mem_append (fun hmem ↦ ?_) (List.not_mem_cons_of_ne_of_not_mem hblank
    (h.not_mem hc))
  have hpart := List.all_eq_true.1 hstorage c hmem
  rw [hc, Bool.false_or, beq_iff_eq] at hpart
  exact hblank hpart

/-- The characters of numbers and types, and the marks between them. -/
def isShapePart (c : Char) : Bool := c.isDigit || ['u', ' ', '[', ']', ';'].contains c

theorem all_isShapePart_decimal (n : Nat) : (decimal n).all isShapePart = true := by
  refine List.all_eq_true.2 fun c hc ↦ ?_
  rw [isShapePart, isDigit_of_mem_decimal hc, Bool.true_or]

theorem all_isShapePart_shape (l : Language) (s : TableSet) :
    (l.shape s).all isShapePart = true := by
  cases l <;> cases s <;>
    simp only [shape, TableSet.isNested, List.all_append, List.all_cons,
      all_isShapePart_decimal] <;>
    rfl

/-- No other mark stands in a shape. -/
theorem not_mem_shape {c : Char} (h : isShapePart c = false) (l : Language) (s : TableSet) :
    c ∉ l.shape s := by
  intro hmem
  rw [List.all_eq_true.1 (all_isShapePart_shape l s) c hmem] at h
  contradiction

end Language

/-! ## Dimensions -/

/-- The dimensions of a set, the outermost first. -/
def TableSet.dimensions : TableSet → List Nat
  | single _ => [Table.size]
  | sliced ts => [ts.length, Table.size]

namespace Declaration

/-- The dimensions of a set are those of its layout, if such a set may be read. -/
theorem layout_dimensions (s : TableSet) :
    layout s.dimensions =
      if s.layout.Accepted then .ok s.layout else .error (.tableCount s.tables.length) := by
  cases s with
  | single t => rfl
  | sliced ts =>
    rw [TableSet.dimensions, layout, if_pos rfl]
    rfl

/-- A dimension with its bracket, between other text. -/
def piece (a : List Char) (n : Nat) (b : List Char) : List Char := a ++ (decimal n ++ [']']) ++ b

theorem not_mem_piece {c : Char} (hdigit : c.isDigit = false) (hbracket : c ≠ ']')
    {a b : List Char} (ha : c ∉ a) (hb : c ∉ b) (n : Nat) : c ∉ piece a n b := by
  have hdecimal : c ∉ decimal n := fun h ↦ by
    rw [isDigit_of_mem_decimal h] at hdigit
    contradiction
  simp [piece, ha, hb, hdecimal, hbracket]

/-- What is read if it depends on the number `n`: a number that is no count is refused. -/
def counted {α : Type} (n : Nat) (x : α) : Except Flaw.Cause α :=
  if n < countLimit then .ok x else .error (.badDimension (String.ofList (decimal n)))

theorem counted_size {α : Type} (x : α) : counted Table.size x = .ok x := if_pos (by decide)

/-- **A dimension is read back** if it is a count. -/
theorem readDimension_piece {a b : List Char} (ha : ∀ c ∈ a, isBlank c = true)
    (hb : ∀ c ∈ b, isBlank c = true) (n : Nat) : readDimension (piece a n b) = counted n n := by
  have hdigits : ∀ c ∈ decimal n, isBlank c = false := fun c hc ↦
    isBlank_of_isIdentifierPart (isIdentifierPart_of_isDigit (isDigit_of_mem_decimal hc))
  have hword : ∀ c ∈ decimal n ++ [']'], isBlank c = false :=
    List.forall_mem_append.2 ⟨hdigits, List.forall_mem_singleton.2 rfl⟩
  have hbracket : dropEndWhile (fun c ↦ c == ']') (decimal n) = decimal n := by
    refine dropEndWhile_eq_self fun c hc ↦ ?_
    have hdigit := isDigit_of_mem_decimal (List.mem_of_getLast? hc)
    rw [beq_eq_false_iff_ne]
    rintro rfl
    contradiction
  have htext : trim (dropEndWhile (fun c ↦ c == ']') (trim (piece a n b))) = decimal n := by
    rw [piece, trim_append_right hb, trim_append_left ha, trim_word hword,
      dropEndWhile_append_of_pos (List.forall_mem_singleton.2 rfl), hbracket, trim_word hdigits]
  by_cases hn : n < countLimit
  · simp only [readDimension, htext, count?_decimal, counted, if_pos hn]
  · simp only [readDimension, htext, count?_decimal, counted, if_neg hn]

theorem readDimension_size {a b : List Char} (ha : ∀ c ∈ a, isBlank c = true)
    (hb : ∀ c ∈ b, isBlank c = true) : readDimension (piece a Table.size b) = .ok Table.size := by
  rw [readDimension_piece ha hb, counted_size]

section Order

variable {inner outer : List Char} {n : Nat}

theorem readDimensions_inner (hinner : readDimension inner = .ok Table.size) :
    readDimensions [inner] = .ok [Table.size] := by
  rw [readDimensions, hinner]
  rfl

/-- In C the dimension that may be refused comes first. -/
theorem readDimensions_outer_inner (houter : readDimension outer = counted n n)
    (hinner : readDimension inner = .ok Table.size) :
    readDimensions [outer, inner] = counted n [n, Table.size] := by
  rw [readDimensions, houter, readDimensions_inner hinner]
  by_cases hn : n < countLimit
  · simp only [counted, if_pos hn]
  · simp only [counted, if_neg hn]

/-- In Rust it comes second. -/
theorem readDimensions_inner_outer (hinner : readDimension inner = .ok Table.size)
    (houter : readDimension outer = counted n n) :
    readDimensions [inner, outer] = counted n [Table.size, n] := by
  rw [readDimensions, hinner]
  by_cases hn : n < countLimit
  · simp only [readDimensions, houter, counted, if_pos hn]
  · simp only [readDimensions, houter, counted, if_neg hn]

end Order

/-! ## The heading as a whole -/

/-- The dimensions in C: each stands behind an opening bracket. -/
theorem readDimensions_shape_c (s : TableSet) :
    readDimensions ((Language.c.shape s ++ [' ']).splitOn '[') =
      counted s.tables.length s.dimensions := by
  have hmark : '[' ∉ piece [] Table.size [' '] :=
    not_mem_piece rfl (by decide) (by simp) (by decide) Table.size
  cases s with
  | single t =>
    have hshape : Language.c.shape (.single t) ++ [' '] = piece [] Table.size [' '] := rfl
    rw [hshape, List.splitOn_eq_singleton hmark]
    exact readDimensions_inner (readDimension_size isBlank_of_mem_nil isBlank_of_mem_blank)
  | sliced ts =>
    have hshape : Language.c.shape (.sliced ts) ++ [' '] =
        piece [] ts.length [] ++ '[' :: piece [] Table.size [' '] := by
      simp [Language.shape, piece, TableSet.isNested, TableSet.tables]
    have hmark' : '[' ∉ piece [] ts.length [] :=
      not_mem_piece rfl (by decide) (by simp) (by simp) ts.length
    rw [hshape, List.splitOn_append_cons_self_of_not_mem hmark', List.splitOn_eq_singleton hmark]
    exact readDimensions_outer_inner
      (readDimension_piece isBlank_of_mem_nil isBlank_of_mem_nil ts.length)
      (readDimension_size isBlank_of_mem_nil isBlank_of_mem_blank)

/-- The dimensions in Rust: each stands behind a semicolon. -/
theorem readDimensions_shape_rust (s : TableSet) :
    readDimensions (((Language.rust.shape s ++ [' ']).splitOn ';').drop 1) =
      counted s.tables.length s.dimensions.reverse := by
  cases s with
  | single t =>
    have hshape : Language.rust.shape (.single t) ++ [' '] =
        " [u64".toList ++ ';' :: piece [' '] Table.size [' '] := by
      simp [Language.shape, piece, TableSet.isNested]
    have hmark : ';' ∉ piece [' '] Table.size [' '] :=
      not_mem_piece rfl (by decide) (by decide) (by decide) Table.size
    rw [hshape, List.splitOn_append_cons_self_of_not_mem (by decide),
      List.splitOn_eq_singleton hmark]
    exact readDimensions_inner (readDimension_size isBlank_of_mem_blank isBlank_of_mem_blank)
  | sliced ts =>
    have hshape : Language.rust.shape (.sliced ts) ++ [' '] =
        " [[u64".toList ++ ';' ::
          (piece [' '] Table.size [] ++ ';' :: piece [' '] ts.length [' ']) := by
      simp [Language.shape, piece, TableSet.isNested, TableSet.tables]
    have hmark : ';' ∉ piece [' '] Table.size [] :=
      not_mem_piece rfl (by decide) (by decide) (by simp) Table.size
    have hmark' : ';' ∉ piece [' '] ts.length [' '] :=
      not_mem_piece rfl (by decide) (by decide) (by decide) ts.length
    rw [hshape, List.splitOn_append_cons_self_of_not_mem (by decide),
      List.splitOn_append_cons_self_of_not_mem hmark, List.splitOn_eq_singleton hmark']
    exact readDimensions_inner_outer
      (readDimension_size isBlank_of_mem_blank isBlank_of_mem_nil)
      (readDimension_piece isBlank_of_mem_blank isBlank_of_mem_blank ts.length)

/-- The name is the last word before the mark behind it. -/
theorem readName_storage (l : Language) {name : List Char} (h : IsName name) :
    readName (l.storage.toList ++ ' ' :: name) = .ok (String.ofList name) := by
  rw [readName, lastWord_append_cons _ rfl h.isBlank_eq_false h.ne_nil]
  obtain ⟨c, rest, rfl⟩ := List.exists_cons_of_ne_nil h.ne_nil
  rfl

/-- **A heading is read back**: the name, the language and the dimensions. -/
theorem read_heading (l : Language) {name : List Char} (h : IsName name) (s : TableSet) :
    read (l.heading name s ++ [' ']) =
      counted s.tables.length ⟨String.ofList name, l, s.dimensions⟩ := by
  have hparts : l.heading name s ++ [' '] =
      (l.storage.toList ++ ' ' :: name) ++ l.mark :: (l.shape s ++ [' ']) := by
    rw [Language.heading_eq, List.append_assoc, List.cons_append]
  rw [hparts]
  cases l with
  | c =>
    have hbracket : '[' ∉ Language.c.storage.toList ++ ' ' :: name :=
      Language.not_mem_before h rfl (by decide) .c
    have hcolon : ':' ∉ (Language.c.storage.toList ++ ' ' :: name) ++
        '[' :: (Language.c.shape s ++ [' ']) := by
      refine List.not_mem_append (Language.not_mem_before h rfl (by decide) .c) ?_
      refine List.not_mem_cons_of_ne_of_not_mem (by decide) ?_
      exact List.not_mem_append (Language.not_mem_shape rfl .c s) (by decide)
    simp only [read, Language.mark, dropWhile_ne_eq_nil hcolon, dropWhile_ne_append_cons hbracket,
      takeWhile_ne_append_cons hbracket, assemble, readName_storage .c h, readDimensions_shape_c]
    by_cases hn : s.tables.length < countLimit
    · simp only [counted, if_pos hn]
    · simp only [counted, if_neg hn]
  | rust =>
    have hcolon : ':' ∉ Language.rust.storage.toList ++ ' ' :: name :=
      Language.not_mem_before h rfl (by decide) .rust
    simp only [read, Language.mark, dropWhile_ne_append_cons hcolon,
      takeWhile_ne_append_cons hcolon, assemble, readName_storage .rust h,
      readDimensions_shape_rust]
    by_cases hn : s.tables.length < countLimit
    · simp only [counted, if_pos hn, List.reverse_reverse]
    · simp only [counted, if_neg hn]

end Declaration
end CrcTables
