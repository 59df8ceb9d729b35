import CrcTables.Listing.Reader

/-!
# Checking tables against the computed ones

A listing is up to date if its tables are the computed ones for a polynomial and a layout.  The
first difference is reported: a recorded polynomial that is another one, then another layout, then
the first entry that differs, by table and then by index.

## What is here

* `firstDifference?` — where two lists differ first.
* `TableSet.compare` — two sets, entry by entry.
* `Listing.verify` — a listing against a polynomial and a layout.
-/

set_option autoImplicit false
namespace CrcTables

/-- The first index from `index` on at which two lists differ, with the two members; what one list
has beyond the other does not count. -/
def firstDifference? (index : Nat) : List UInt64 → List UInt64 → Option (Nat × UInt64 × UInt64)
  | a :: as, b :: bs => if a = b then firstDifference? (index + 1) as bs else some (index, a, b)
  | _, _ => none

/-- The first entry from table number `table` on at which two lists of tables differ, as an error
that carries the entry of the first list as expected. -/
def firstStale? (table : Nat) : List Table → List Table → Option Error
  | t :: ts, u :: us =>
    match firstDifference? 0 t.toList u.toList with
    | some (index, expected, found) => some (.staleEntry table index expected found)
    | none => firstStale? (table + 1) ts us
  | _, _ => none

namespace TableSet

/-- The number of tables of a set, for messages. -/
def countText (s : TableSet) : String := toString s.tables.length ++ " tables"

/-- Compares two sets, entry by entry; their nesting does not count. -/
def compare (expected found : TableSet) : Except Error Unit :=
  if expected.tables.length ≠ found.tables.length then
    .error (.layoutMismatch expected.countText found.countText)
  else
    match firstStale? 0 expected.tables found.tables with
    | some e => .error e
    | none => .ok ()

end TableSet

namespace Listing

/-- Checks that a listing holds the computed tables of a polynomial in a layout, and that it
records no other polynomial. -/
def verify (l : Listing) (p : UInt64) (layout : Layout) : Except Error Unit :=
  match l.polynomial?.filter fun found ↦ found ≠ p with
  | some found => .error (.polynomialMismatch p found)
  | none =>
    if l.tables.layout ≠ layout then
      .error (.layoutMismatch layout.describe l.tables.layout.describe)
    else
      match TableSet.generate p layout with
      | .error e => .error e
      | .ok fresh => fresh.compare l.tables

end Listing
end CrcTables
