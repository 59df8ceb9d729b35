import CrcTables.Text.Hex
import CrcTables.Text.Quoted

/-!
# What can go wrong

Tables can be computed for every polynomial, so errors come from elsewhere: from settings that no
table can be laid out with, from text that cannot be read back, and from tables that are not the
ones expected.  Each error is a cause with its data; `Error.message` alone holds the wording.
-/

set_option autoImplicit false
namespace CrcTables

/-- A cause of failure. -/
inductive Error where
  /-- Reading or writing failed, for the reason given. -/
  | inputOutput (reason : String)
  /-- A text could not be assembled. -/
  | formatting
  /-- No table can be laid out with this many entries in a row. -/
  | columnCount (columns : Nat)
  /-- No set of tables has this many. -/
  | sliceCount (slices : Nat)
  /-- An array cannot have this name. -/
  | arrayName (name : String)
  /-- This text does not spell a polynomial. -/
  | polynomialText (text : String)
  /-- Generated text could not be read back, for the reason given. -/
  | unreadable (line : Nat) (reason : String)
  /-- The tables are recorded for another polynomial. -/
  | polynomialMismatch (expected found : UInt64)
  /-- The tables are laid out differently. -/
  | layoutMismatch (expected found : String)
  /-- An entry of a table is not the computed one. -/
  | staleEntry (table index : Nat) (expected found : UInt64)
  deriving DecidableEq, Repr

namespace Error

/-- A word as messages show it. -/
def word (w : UInt64) : String := String.ofList (Text.marked16 w)

/-- A text as messages show it. -/
def quoted (s : String) : String := String.ofList (Text.quote s.toList)

/-- The wording of an error. -/
def message : Error → String
  | inputOutput reason => "I/O error: " ++ reason
  | formatting => "Formatting error: an error occurred when formatting an argument"
  | columnCount n => "Invalid column count: " ++ toString n ++ " (must be at least 1)"
  | sliceCount n => "Invalid slice count: " ++ toString n ++ " (must be between 1 and 64)"
  | arrayName name => "Invalid identifier: " ++ quoted name
  | polynomialText text => "Invalid polynomial: " ++ quoted text
  | unreadable line reason => "Parse error at line " ++ toString line ++ ": " ++ reason
  | polynomialMismatch expected found =>
    "Polynomial mismatch: expected " ++ word expected ++ ", found " ++ word found
  | layoutMismatch expected found =>
    "Layout mismatch: expected " ++ expected ++ ", found " ++ found
  | staleEntry table index expected found =>
    "Stale entry in table " ++ toString table ++ " at index " ++ toString index ++
      ": expected " ++ word expected ++ ", found " ++ word found

/-- Whether the error is a difference between what was expected and what was found, rather than a
failure to compute or to read. -/
def isMismatch : Error → Bool
  | polynomialMismatch .. | layoutMismatch .. | staleEntry .. => true
  | _ => false

end Error
end CrcTables
