import CrcTables.Proofs.Listing.Opening

/-!
# The search for the declaration, line by line

Before the array a line can do three things: it lets the search go on, it has a flaw, or it declares
the array.  Which of these it does depends on the line alone, neither on its number nor on the other
lines, and it is decided here once.

## What is here

* `Listing.SearchStep`, `Listing.searchStep` — what a line does to the search.
* `Listing.openingOf_cons` — the search, by what its first line does.
* `Listing.readFrom` — the listing on lines that are counted from any number, and what the first of
  them does (`Listing.readFrom_cons`); a text is read in this way (`Listing.parse_eq_readFrom`).
* `Listing.readFrom_append_of_goOn` — lines that let the search go on and record nothing are only
  counted.
-/

set_option autoImplicit false
namespace CrcTables
namespace Listing

open Text

/-- What a line does to the search for the declaration. -/
inductive SearchStep where
  /-- The search goes on behind it.  The line may have recorded a polynomial. -/
  | goOn (found? : Option UInt64)
  /-- It has a flaw. -/
  | fail (cause : Flaw.Cause)
  /-- It declares the array; `tail` is what follows the equals sign. -/
  | declare (d : Declaration) (tail : List Char)

/-- What a line does to the search for the declaration. -/
def searchStep (l : List Char) : SearchStep :=
  match after? polynomialLabel.toList l with
  | some tail =>
    match Generator.read? (recordedText tail) with
    | some p => .goOn (some p)
    | none => .fail (.badPolynomial (String.ofList (recordedText tail)))
  | none =>
    if startsDeclaration l then
      match l.dropWhile fun c ↦ c != '=' with
      | [] => .fail .noInitializer
      | _ :: tail =>
        match Declaration.read (l.takeWhile fun c ↦ c != '=') with
        | .error cause => .fail cause
        | .ok d => .declare d tail
    else .goOn none

/-- **The search, by what its first line does.** -/
theorem openingOf_cons (recorded? : Option UInt64) (line : Nat) (l : List Char)
    (rest : List (List Char)) :
    openingOf recorded? line (l :: rest) =
      match searchStep l with
      | .goOn found? => openingOf (found?.or recorded?) (line + 1) rest
      | .fail cause => .error ⟨line, cause⟩
      | .declare d tail => .ok ⟨recorded?, line, d, tail, rest⟩ := by
  rw [openingOf, searchStep]
  cases after? polynomialLabel.toList l with
  | some tail =>
    cases hp : Generator.read? (recordedText tail) <;> simp only [hp, Option.some_or]
  | none =>
    cases startsDeclaration l with
    | false => rfl
    | true =>
      simp only [if_true]
      cases l.dropWhile fun c ↦ c != '=' with
      | nil => rfl
      | cons c tail => cases Declaration.read (l.takeWhile fun c ↦ c != '=') <;> rfl

/-- The listing on some lines, the first of which has the given number; `recorded?` is the
polynomial recorded before. -/
def readFrom (recorded? : Option UInt64) (line : Nat) (ls : List (List Char)) :
    Except Flaw Listing :=
  (openingOf recorded? line ls).bind finish

theorem readLines_eq_readFrom (ls : List (List Char)) : readLines ls = readFrom none 1 ls := by
  rw [readLines, readFrom]
  cases openingOf none 1 ls <;> rfl

/-- A text is read from its first line on; a flaw becomes an error. -/
theorem parse_eq_readFrom (text : String) :
    parse text = (readFrom none 1 (lines text.toList)).mapError Flaw.toError := by
  rw [parse, read, readLines_eq_readFrom]
  cases readFrom none 1 (lines text.toList) <;> rfl

/-- **Reading, by what the first line does.** -/
theorem readFrom_cons (recorded? : Option UInt64) (line : Nat) (l : List Char)
    (rest : List (List Char)) :
    readFrom recorded? line (l :: rest) =
      match searchStep l with
      | .goOn found? => readFrom (found?.or recorded?) (line + 1) rest
      | .fail cause => .error ⟨line, cause⟩
      | .declare d tail => finish ⟨recorded?, line, d, tail, rest⟩ := by
  rw [readFrom, openingOf_cons]
  cases searchStep l <;> rfl

/-- **Lines that let the search go on** and record nothing are only counted. -/
theorem readFrom_append_of_goOn {front : List (List Char)}
    (h : ∀ l ∈ front, searchStep l = .goOn none) (recorded? : Option UInt64) (line : Nat)
    (ls : List (List Char)) :
    readFrom recorded? line (front ++ ls) = readFrom recorded? (line + front.length) ls := by
  induction front generalizing line with
  | nil => rfl
  | cons l front ih =>
    rw [List.forall_mem_cons] at h
    rw [List.cons_append, readFrom_cons, h.1]
    simp only [Option.none_or]
    rw [ih h.2, List.length_cons, Nat.add_assoc, Nat.add_comm 1]

end Listing
end CrcTables
