/-!
# Hexadecimal words

Words are written with sixteen lowercase digits, so that they line up, and read from one to
sixteen digits in either case.

## What is here

* `writeHex`, `word16`, `marked16` — writing, and the number of digits written.
* `isHexDigit`, `hexValue`, `ofHex` — the digits and the number they stand for.
* `word?` — reading a word.
-/

set_option autoImplicit false
namespace CrcTables
namespace Text

/-- The number `n` in `width` lowercase digits before `tail`: zeros fill the width, and what does
not fit is left out at the front. -/
def writeHex (width n : Nat) (tail : List Char) : List Char :=
  match width with
  | 0 => tail
  | width + 1 => writeHex width (n / 16) (Nat.digitChar (n % 16) :: tail)

/-- The sixteen digits of a word. -/
def word16 (w : UInt64) : List Char := writeHex 16 w.toNat []

/-- The sixteen digits of a word after the mark `0x`. -/
def marked16 (w : UInt64) : List Char := '0' :: 'x' :: word16 w

/-- Whether a character is an ASCII hexadecimal digit, in either case. -/
def isHexDigit (c : Char) : Bool :=
  ('0' ≤ c && c ≤ '9') || ('a' ≤ c && c ≤ 'f') || ('A' ≤ c && c ≤ 'F')

/-- The value of a hexadecimal digit. -/
def hexValue (c : Char) : Nat :=
  if c ≤ '9' then c.toNat - 48 else if c ≤ 'F' then c.toNat - 55 else c.toNat - 87

/-- The number that hexadecimal digits stand for, the most significant first. -/
def ofHex (digits : List Char) : Nat :=
  digits.foldl (fun n c ↦ 16 * n + hexValue c) 0

/-- The word written by one to sixteen hexadecimal digits; leading zeros count as digits. -/
def word? (digits : List Char) : Option UInt64 :=
  if digits ≠ [] ∧ digits.length ≤ 16 ∧ digits.all isHexDigit then
    some (UInt64.ofNat (ofHex digits))
  else none

/-- Writing puts as many digits before the tail as the width says. -/
theorem length_writeHex (width n : Nat) (tail : List Char) :
    (writeHex width n tail).length = width + tail.length := by
  induction width generalizing n tail with
  | zero => simp [writeHex]
  | succ width ih => rw [writeHex, ih, List.length_cons]; omega

/-- A word is written in sixteen digits. -/
theorem length_word16 (w : UInt64) : (word16 w).length = 16 := length_writeHex 16 w.toNat []

end Text
end CrcTables
