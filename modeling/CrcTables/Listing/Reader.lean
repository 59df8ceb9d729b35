import CrcTables.Listing.Declaration
import CrcTables.Listing.Literal
import CrcTables.Listing.Printer
import CrcTables.Generator.Spelling
import CrcTables.Text.Search

/-!
# Reading a listing

Reading goes line by line and is only as strict as it has to be to recover the numbers.  A line
with the polynomial's label records a polynomial; the last one before the declaration counts.
The first other line that starts like a declaration declares the array, and the rest of it and
the lines behind it hold the entries, up to a line that closes the array.  What stands behind that
line does not matter.

## What is here

* `Listing` — what a listing says.
* `Listing.openingOf` — the search for the declaration.
* `Listing.readEntries` — the entries of the array.
* `Listing.read`, `Listing.parse` — reading a whole text.
-/

set_option autoImplicit false
namespace CrcTables

/-- What a listing says. -/
structure Listing where
  /-- The name of the array. -/
  name : String
  /-- The language it is written in. -/
  language : Language
  /-- The polynomial recorded in a comment, if there is one. -/
  polynomial? : Option UInt64
  /-- The tables. -/
  tables : TableSet
  deriving DecidableEq

namespace Listing

/-- A text up to its declaration. -/
structure Opening where
  /-- The polynomial recorded before the declaration. -/
  polynomial? : Option UInt64
  /-- The line of the declaration, counted from one. -/
  line : Nat
  /-- The declaration. -/
  declaration : Declaration
  /-- What follows the equals sign on that line. -/
  initializer : List Char
  /-- The lines behind it. -/
  following : List (List Char)

/-- The text that spells the polynomial, from what follows its label on the line. -/
def recordedText (s : List Char) : List Char :=
  Text.trim (Text.stripCommentEnds (Text.trim s))

/-- Whether a line starts like a declaration. -/
def startsDeclaration (l : List Char) : Bool :=
  let text := Text.trimStart l
  "static ".toList.isPrefixOf text || "pub static ".toList.isPrefixOf text

/-- Whether a line closes the array. -/
def closes (l : List Char) : Bool :=
  let text := Text.trim l
  text == ['\x7d', ';'] || text == [']', ';']

/-- The text up to its declaration, from the line with the given number on; `recorded?` is the
polynomial recorded before. -/
def openingOf (recorded? : Option UInt64) (line : Nat) :
    List (List Char) → Except Flaw Opening
  | [] => .error ⟨max (line - 1) 1, .noDeclaration⟩
  | l :: rest =>
    match Text.after? polynomialLabel.toList l with
    | some tail =>
      match Generator.read? (recordedText tail) with
      | some p => openingOf (some p) (line + 1) rest
      | none => .error ⟨line, .badPolynomial (String.ofList (recordedText tail))⟩
    | none =>
      if startsDeclaration l then
        match l.dropWhile fun c ↦ c != '=' with
        | [] => .error ⟨line, .noInitializer⟩
        | _ :: tail =>
          match Declaration.read (l.takeWhile fun c ↦ c != '=') with
          | .error cause => .error ⟨line, cause⟩
          | .ok d => .ok ⟨recorded?, line, d, tail, rest⟩
      else openingOf recorded? (line + 1) rest

/-- The words of the literals of a line, added to those found before. -/
def scanLine (line : Nat) (l : List Char) (found : Array UInt64) :
    Except Flaw (Array UInt64) :=
  match Literal.scan l found with
  | .ok words => .ok words
  | .error digits => .error ⟨line, .badLiteral (String.ofList digits)⟩

/-- The entries on the lines behind line `last`, added to those found before, with the number of
the last line that was read. -/
def readEntries (last : Nat) (found : Array UInt64) :
    List (List Char) → Except Flaw (Nat × Array UInt64)
  | [] => .ok (last, found)
  | l :: rest =>
    match scanLine (last + 1) l found with
    | .error e => .error e
    | .ok words =>
      if closes l then .ok (last + 1, words) else readEntries (last + 1) words rest

/-- Table number `t` of some entries, 256 for each table. -/
def tableAt (words : Array UInt64) (t : Nat) (h : 256 * t + 256 ≤ words.size) : Table :=
  Vector.ofFn fun i ↦ words[256 * t + i.val]

/-- The entries of one of `n` tables are among those of all. -/
theorem tableAt_bound {t n size : Nat} (ht : t < n) (h : size = 256 * n) :
    256 * t + 256 ≤ size := by
  omega

/-- The entries in a layout, if their number fits it. -/
def fit? (words : Array UInt64) : Layout → Option TableSet
  | .single =>
    if h : words.size = 256 then some (.single (tableAt words 0 (Nat.le_of_eq h.symm))) else none
  | .sliced n =>
    if h : words.size = 256 * n then
      some (.sliced (List.ofFn fun t : Fin n ↦ tableAt words t.val (tableAt_bound t.isLt h)))
    else none

/-- The listing behind its declaration. -/
def finish (o : Opening) : Except Flaw Listing :=
  match Declaration.layout o.declaration.dimensions with
  | .error cause => .error ⟨o.line, cause⟩
  | .ok layout =>
    match scanLine o.line o.initializer #[] with
    | .error e => .error e
    | .ok first =>
      match readEntries o.line first o.following with
      | .error e => .error e
      | .ok (last, words) =>
        match fit? words layout with
        | some tables =>
          .ok ⟨o.declaration.name, o.declaration.language, o.polynomial?, tables⟩
        | none => .error ⟨last, .entryCount (Table.size * layout.tableCount) words.size⟩

/-- The listing on some lines. -/
def readLines (ls : List (List Char)) : Except Flaw Listing :=
  match openingOf none 1 ls with
  | .error e => .error e
  | .ok o => finish o

/-- The listing that a text holds, or its first flaw. -/
def read (s : List Char) : Except Flaw Listing := readLines (Text.lines s)

/-- The listing that a text holds. -/
def parse (text : String) : Except Error Listing :=
  match read text.toList with
  | .ok l => .ok l
  | .error f => .error f.toError

end Listing
end CrcTables
