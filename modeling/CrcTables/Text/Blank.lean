/-!
# Blank characters, trimming and words

A character is *blank* if it has the Unicode property White_Space.  Core's `Char.isWhitespace`
knows only some of these.

## What is here

* `isBlank` — the property, as a list of ranges.
* `trimStart`, `trimEnd`, `trim` — a text without the blanks at its ends.
* `lastWord` — the last run of characters that are not blank.
-/

set_option autoImplicit false
namespace CrcTables
namespace Text

/-- The ranges of code points with the property White_Space. -/
def blankRanges : List (Nat × Nat) :=
  [(0x9, 0xd), (0x20, 0x20), (0x85, 0x85), (0xa0, 0xa0), (0x1680, 0x1680), (0x2000, 0x200a),
    (0x2028, 0x2029), (0x202f, 0x202f), (0x205f, 0x205f), (0x3000, 0x3000)]

/-- Whether a number lies in one of a list of closed ranges. -/
def inRanges (ranges : List (Nat × Nat)) (n : Nat) : Bool :=
  ranges.any fun r ↦ r.1 ≤ n && n ≤ r.2

/-- Whether a character has the property White_Space. -/
def isBlank (c : Char) : Bool := inRanges blankRanges c.toNat

/-- The text from its first character that is not blank. -/
def trimStart (s : List Char) : List Char := s.dropWhile isBlank

/-- The text up to the last character that does not satisfy `p`. -/
def dropEndWhile (p : Char → Bool) (s : List Char) : List Char := (s.reverse.dropWhile p).reverse

/-- The text up to its last character that is not blank. -/
def trimEnd (s : List Char) : List Char := dropEndWhile isBlank s

/-- The text without the blanks at both ends. -/
def trim (s : List Char) : List Char := trimEnd (trimStart s)

/-- The last run of characters that are not blank, empty if there is none. -/
def lastWord (s : List Char) : List Char :=
  ((trimEnd s).reverse.takeWhile fun c ↦ !isBlank c).reverse

end Text
end CrcTables
