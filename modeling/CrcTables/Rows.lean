/-!
# Rows

A list is cut into rows of one length; only the last row may be shorter.

## What is here

* `rowCount` — the number of rows.
* `rows` — the rows, in order.
-/

set_option autoImplicit false
namespace CrcTables

/-- The number of rows of `k` that `n` members fill, the last of which may be shorter: the quotient
rounded up.  Rows of no length are not counted. -/
def rowCount (k n : Nat) : Nat := (n + (k - 1)) / k

/-- A list cut into rows of `k`: row `r` starts at member `r * k`. -/
def rows {α : Type} (k : Nat) (xs : List α) : List (List α) :=
  (List.range (rowCount k xs.length)).map fun r ↦ (xs.drop (r * k)).take k

/-- The rows are as many as counted. -/
theorem length_rows {α : Type} (k : Nat) (xs : List α) :
    (rows k xs).length = rowCount k xs.length := by
  simp [rows]

end CrcTables
