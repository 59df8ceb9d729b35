import CrcTables.Table.Layout

/-!
# Sets of tables

A `TableSet` holds tables in one of the two layouts.  A flat table and a set with that table alone
are different sets: their texts differ, and so do the programs that use them.

## What is here

* `TableSet` with its tables (`TableSet.tables`) and its layout (`TableSet.layout`).
* `TableSet.generate` — the tables of a polynomial in a layout.
-/

set_option autoImplicit false
namespace CrcTables

/-- Tables in one of the two layouts. -/
inductive TableSet where
  /-- One flat table. -/
  | single (table : Table)
  /-- A nested set. -/
  | sliced (tables : List Table)
  deriving DecidableEq

namespace TableSet

/-- The tables, in order. -/
def tables : TableSet → List Table
  | single t => [t]
  | sliced ts => ts

/-- The layout the tables are in. -/
def layout : TableSet → Layout
  | single _ => .single
  | sliced ts => .sliced ts.length

/-- Whether the tables form a nested set. -/
def isNested : TableSet → Bool
  | single _ => false
  | sliced _ => true

/-- The number of entries of all tables together. -/
def entryCount (s : TableSet) : Nat := s.tables.length * Table.size

/-- The tables of a reflected polynomial in a layout, if it is accepted. -/
def generate (p : UInt64) (l : Layout) : Except Error TableSet :=
  match l.check with
  | .error e => .error e
  | .ok () =>
    match l with
    | .single => .ok (single (Table.base p))
    | .sliced n => .ok (sliced (Table.slices p n))

/-- The layout of a set has as many tables as the set. -/
theorem tableCount_layout (s : TableSet) : s.layout.tableCount = s.tables.length := by
  cases s <;> rfl

/-- Sets in one layout have as many tables. -/
theorem length_tables_of_layout_eq {s s' : TableSet} (h : s.layout = s'.layout) :
    s.tables.length = s'.tables.length := by
  rw [← s.tableCount_layout, h, s'.tableCount_layout]

end TableSet
end CrcTables
