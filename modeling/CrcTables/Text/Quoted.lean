import CrcTables.Text.Blank
import CrcTables.Text.Hex
import CrcTables.Text.Unprintable

/-!
# Quoted text

Messages show a text that was refused between double quotes, with everything that could not be
seen on a terminal spelled out.  NUL, tab, line feed, carriage return, the double quote and the
backslash have short escapes.  A character without a printed form, one that is not shown, or one
that would join the character before it, is written by its code point; a single quote stays as it
is.

## What is here

* `joinsBefore`, `isPlain` — whether a character stands for itself.
* `quote` — the quoted text.
-/

set_option autoImplicit false
namespace CrcTables
namespace Text

/-- Whether a character is drawn onto the one before it.  The two halfwidth katakana sound marks
have a place of their own, so they are not, although they extend a grapheme. -/
def joinsBefore (c : Char) : Bool :=
  inRanges graphemeExtendRanges c.toNat && !inRanges [(0xff9e, 0xff9f)] c.toNat

/-- Whether a character stands for itself between quotes, short escapes aside. -/
def isPlain (c : Char) : Bool :=
  !inRanges unprintableRanges c.toNat && !inRanges defaultIgnorableRanges c.toNat &&
    !joinsBefore c

/-- A character written by its code point. -/
def codePoint (c : Char) : List Char :=
  ['\\', 'u', '\x7b'] ++ Nat.toDigits 16 c.toNat ++ ['\x7d']

/-- A character as it is written between double quotes. -/
def escape (c : Char) : List Char :=
  match c with
  | '\x00' => ['\\', '0']
  | '\t' => ['\\', 't']
  | '\n' => ['\\', 'n']
  | '\r' => ['\\', 'r']
  | '"' => ['\\', '"']
  | '\\' => ['\\', '\\']
  | c => if isPlain c then [c] else codePoint c

/-- A text between double quotes. -/
def quote (s : List Char) : List Char :=
  '"' :: s.flatMap escape ++ ['"']

end Text
end CrcTables
