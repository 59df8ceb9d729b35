import CrcTables.Error
import CrcTables.Table

/-!
# Layouts

A layout says how many tables there are and how they are nested: either one flat table, or a
nested set of tables, which may hold just one.

## What is here

* `Layout` and its default, the set of eight.
* `Layout.tableCount`, `Layout.describe` — the number of tables and a short name.
* `Layout.Accepted`, `Layout.check` — the sets that are generated have 1 to 64 tables.
-/

set_option autoImplicit false
namespace CrcTables

/-- How tables are nested. -/
inductive Layout where
  /-- One flat table. -/
  | single
  /-- A nested set with this many tables. -/
  | sliced (count : Nat)
  deriving DecidableEq, Repr

namespace Layout

/-- The largest number of tables in a set. -/
def maxSlices : Nat := 64

/-- The set of eight tables, one for each byte of a word. -/
def slicedByEight : Layout := .sliced 8

instance : Inhabited Layout := ⟨slicedByEight⟩

/-- The number of tables. -/
def tableCount : Layout → Nat
  | single => 1
  | sliced n => n

/-- A short name for messages, the number of tables before the number of entries. -/
def describe : Layout → String
  | single => toString Table.size
  | sliced n => toString n ++ "x" ++ toString Table.size

/-- Whether tables are generated in this layout. -/
def Accepted : Layout → Prop
  | single => True
  | sliced n => 1 ≤ n ∧ n ≤ maxSlices

instance : DecidablePred Accepted := fun l ↦
  match l with
  | single => .isTrue trivial
  | sliced n => inferInstanceAs (Decidable (1 ≤ n ∧ n ≤ maxSlices))

/-- Refuses a layout in which no tables are generated. -/
def check (l : Layout) : Except Error Unit :=
  if l.Accepted then .ok () else .error (.sliceCount l.tableCount)

end Layout
end CrcTables
