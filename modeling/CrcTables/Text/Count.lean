/-!
# Counts

Counts are natural numbers below `2 ^ 64`.  They are written in decimal, and read from decimal
digits after at most one plus sign; leading zeros are allowed.
-/

set_option autoImplicit false
namespace CrcTables
namespace Text

/-- Counts are below this number, the 64th power of two. -/
def countLimit : Nat := 18446744073709551616

/-- The decimal digits of a number. -/
def decimal (n : Nat) : List Char := Nat.toDigits 10 n

/-- Whether a character is an ASCII decimal digit. -/
def isDecimalDigit (c : Char) : Bool := '0' ≤ c && c ≤ '9'

/-- The number that decimal digits stand for, the most significant first. -/
def ofDecimal (digits : List Char) : Nat :=
  digits.foldl (fun n c ↦ 10 * n + (c.toNat - 48)) 0

/-- The text without one plus sign at its start. -/
def dropPlus : List Char → List Char
  | '+' :: rest => rest
  | s => s

/-- The count that a text spells, or `none` if it spells no number below `2 ^ 64`. -/
def count? (s : List Char) : Option Nat :=
  let digits := dropPlus s
  if digits ≠ [] ∧ digits.all isDecimalDigit ∧ ofDecimal digits < countLimit then
    some (ofDecimal digits)
  else none

end Text
end CrcTables
