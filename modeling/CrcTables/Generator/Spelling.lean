import CrcTables.Error
import CrcTables.Text.Blank
import CrcTables.Text.Count
import CrcTables.Text.Hex

/-!
# Spellings of a polynomial

A polynomial is spelled by one to sixteen hexadecimal digits in either case.  One `0x` or `0X` may
stand before them, underscores may stand anywhere behind that mark, and blanks may stand around
the whole.  What is left without all that is checked, and then converted by a general routine, which
makes checks of its own.

## What is here

* `Generator.Checked`, `Generator.convert?` — the checks and the conversion.
* `Generator.read?` — the word that a text spells.
* `Generator.parse` — the same, with the refused text in the error.
-/

set_option autoImplicit false
namespace CrcTables
namespace Generator

/-- The text without one hexadecimal mark at its start. -/
def dropMark : List Char → List Char
  | '0' :: 'x' :: rest => rest
  | '0' :: 'X' :: rest => rest
  | s => s

/-- What is left of a text without its underscores. -/
def withoutUnderscores (d : List Char) : List Char := d.filter fun c ↦ c ≠ '_'

/-- The checks on what is left without underscores: something is left, it is not too long in bytes,
and there are only digits. -/
def Checked (digits : List Char) : Prop :=
  digits ≠ [] ∧ (String.ofList digits).utf8ByteSize ≤ 16 ∧ digits.all Text.isHexDigit = true

instance : DecidablePred Checked := fun _ ↦ inferInstanceAs (Decidable (_ ∧ _))

/-- The conversion of a text to a word, which makes its own checks: there may be one plus sign,
there have to be digits, and their number has to fit. -/
def convert? (s : List Char) : Option UInt64 :=
  let digits := Text.dropPlus s
  if digits ≠ [] ∧ digits.all Text.isHexDigit ∧ Text.ofHex digits < UInt64.size then
    some (UInt64.ofNat (Text.ofHex digits))
  else none

/-- The polynomial that a text spells. -/
def read? (s : List Char) : Option UInt64 :=
  let digits := withoutUnderscores (dropMark (Text.trim s))
  if Checked digits then convert? digits else none

/-- The polynomial that a text spells; the error carries the text as it was given. -/
def parse (s : String) : Except Error UInt64 :=
  match read? s.toList with
  | some p => .ok p
  | none => .error (.polynomialText s)

end Generator
end CrcTables
