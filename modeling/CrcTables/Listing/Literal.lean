import CrcTables.Text.Hex

/-!
# The literals of a line

A literal starts at a mark `0x` and goes on as long as hexadecimal digits follow; there must be
one to sixteen of them.  Everything between two literals is passed over, suffixes and punctuation
included.

## What is here

* `Literal.close` — a run of digits that has ended.
* `Literal.scanFrom`, `Literal.scan` — the words of the literals of a text, added to words found
  before.
-/

set_option autoImplicit false
namespace CrcTables
namespace Literal

/-- The words found so far and the one of a run of digits that has ended, given in reverse.  The
error is the run, if it is no word: an empty run or one that is too long. -/
def close (run : List Char) (found : Array UInt64) : Except (List Char) (Array UInt64) :=
  match Text.word? run.reverse with
  | some w => .ok (found.push w)
  | none => .error run.reverse

/-- The words found so far and those of the literals of a text, in order.  `run?` holds the digits
behind the mark, in reverse, while they go on; the character that ends them is no digit, so no
mark starts at it. -/
def scanFrom (run? : Option (List Char)) (s : List Char) (found : Array UInt64) :
    Except (List Char) (Array UInt64) :=
  match run?, s with
  | none, [] => .ok found
  | none, '0' :: 'x' :: rest => scanFrom (some []) rest found
  | none, _ :: rest => scanFrom none rest found
  | some run, [] => close run found
  | some run, c :: rest =>
    if Text.isHexDigit c then scanFrom (some (c :: run)) rest found
    else
      match close run found with
      | .error e => .error e
      | .ok found => scanFrom none rest found

/-- The words found so far and those of the literals of a text, in order.  The error is the run of
digits behind the first mark that is no literal. -/
def scan (s : List Char) (found : Array UInt64) : Except (List Char) (Array UInt64) :=
  scanFrom none s found

end Literal
end CrcTables
