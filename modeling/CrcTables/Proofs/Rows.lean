import CrcTables.Rows
import Mathlib.Data.List.Forall2

/-!
# Rows lose nothing

Rows are cut by counting: how many there are is a quotient rounded up, and where each one starts is
a product.  Cutting off one after the other until nothing is left gives the same rows, so the count
agrees with that.  Put together they are the list again.

## What is here

* `rows_eq_cons` — the first row is cut off, and the others are the rows of what is left.
* `flatten_rows` — all the rows, one after the other, are the list.
* `ne_nil_of_mem_rows` — no row is empty.
* `length_of_mem_dropLast_rows` — only the last row may be short.
* `rows_map` — what is done to each member is done row by row.
* `forall₂_rows` — lists that are related member by member are cut into related rows.
-/

set_option autoImplicit false
namespace CrcTables

theorem mem_rows {α : Type} {k : Nat} {xs row : List α} :
    row ∈ rows k xs ↔ ∃ r < rowCount k xs.length, (xs.drop (r * k)).take k = row := by
  simp [rows]

theorem rowCount_zero {k : Nat} (hk : k ≠ 0) : rowCount k 0 = 0 := by
  rw [rowCount, Nat.zero_add]
  exact Nat.div_eq_of_lt (Nat.sub_one_lt hk)

/-- The first row takes `k` members, or all if there are fewer. -/
theorem rowCount_eq_succ {k n : Nat} (hk : k ≠ 0) (hn : n ≠ 0) :
    rowCount k n = rowCount k (n - k) + 1 := by
  rcases Nat.lt_or_ge n k with hlt | hge
  · have hsum : n + (k - 1) = n - 1 + k := by omega
    rw [Nat.sub_eq_zero_of_le (Nat.le_of_lt hlt), rowCount_zero hk, rowCount, hsum,
      Nat.add_div_right _ (Nat.pos_of_ne_zero hk), Nat.div_eq_of_lt (by omega)]
  · rw [rowCount, rowCount, ← Nat.add_div_right _ (Nat.pos_of_ne_zero hk)]
    congr 1
    omega

/-- A row that is counted starts inside the list. -/
theorem mul_lt_of_lt_rowCount {k n r : Nat} (hk : k ≠ 0) (h : r < rowCount k n) : r * k < n := by
  have hle : (r + 1) * k ≤ n + (k - 1) :=
    (Nat.le_div_iff_mul_le (Nat.pos_of_ne_zero hk)).1 h
  rw [Nat.add_mul, Nat.one_mul] at hle
  omega

theorem rows_nil {α : Type} {k : Nat} (hk : k ≠ 0) : rows k ([] : List α) = [] := by
  rw [rows, List.length_nil, rowCount_zero hk]
  rfl

/-- **The rows are cut off one after the other**, as long as something is left. -/
theorem rows_eq_cons {α : Type} {k : Nat} (hk : k ≠ 0) {xs : List α} (hxs : xs ≠ []) :
    rows k xs = xs.take k :: rows k (xs.drop k) := by
  have hlength : xs.length ≠ 0 := mt List.eq_nil_of_length_eq_zero hxs
  rw [rows, rows, rowCount_eq_succ hk hlength, List.range_succ_eq_map, List.map_cons, List.map_map,
    List.length_drop, Nat.zero_mul, List.drop_zero]
  congr 1
  refine List.map_congr_left fun r _ ↦ ?_
  rw [Function.comp_apply, List.drop_drop, Nat.succ_mul, Nat.add_comm]

/-- **The rows are the list**, cut. -/
theorem flatten_rows {α : Type} {k : Nat} (hk : k ≠ 0) (xs : List α) :
    (rows k xs).flatten = xs := by
  by_cases hxs : xs = []
  · rw [hxs, rows_nil hk, List.flatten_nil]
  · rw [rows_eq_cons hk hxs, List.flatten_cons, flatten_rows hk (xs.drop k), List.take_append_drop]
termination_by xs.length
decreasing_by
  rw [List.length_drop]
  exact Nat.sub_lt (List.length_pos_of_ne_nil hxs) (Nat.pos_of_ne_zero hk)

/-- **No row is empty.** -/
theorem ne_nil_of_mem_rows {α : Type} {k : Nat} (hk : k ≠ 0) {xs row : List α}
    (h : row ∈ rows k xs) : row ≠ [] := by
  obtain ⟨r, hr, rfl⟩ := mem_rows.1 h
  have hstart := mul_lt_of_lt_rowCount hk hr
  refine List.ne_nil_of_length_pos ?_
  rw [List.length_take, List.length_drop]
  omega

/-- **Only the last row may be short.** -/
theorem length_of_mem_dropLast_rows {α : Type} {k : Nat} (hk : k ≠ 0) {xs row : List α}
    (h : row ∈ (rows k xs).dropLast) : row.length = k := by
  have hmem : ∃ r < rowCount k xs.length - 1, (xs.drop (r * k)).take k = row := by
    rw [rows, ← List.map_dropLast, List.dropLast_eq_take, List.length_range,
      List.take_range, List.mem_map] at h
    obtain ⟨r, hr, hrow⟩ := h
    exact ⟨r, by rw [List.mem_range] at hr; omega, hrow⟩
  obtain ⟨r, hr, rfl⟩ := hmem
  -- the row that starts behind it starts inside the list
  have hnext := mul_lt_of_lt_rowCount (n := xs.length) (r := r + 1) hk (by omega)
  rw [Nat.add_mul, Nat.one_mul] at hnext
  rw [List.length_take, List.length_drop]
  omega

theorem length_le_of_mem_rows {α : Type} {k : Nat} {xs row : List α} (h : row ∈ rows k xs) :
    row.length ≤ k := by
  obtain ⟨r, -, rfl⟩ := mem_rows.1 h
  exact List.length_take_le k _

/-- What is done to each member is done row by row. -/
theorem rows_map {α β : Type} (k : Nat) (f : α → β) (xs : List α) :
    rows k (xs.map f) = (rows k xs).map (List.map f) := by
  simp [rows]

/-- **Related lists are cut into related rows.** -/
theorem forall₂_rows {α β : Type} {R : α → β → Prop} (k : Nat) {xs : List α} {ys : List β}
    (h : List.Forall₂ R xs ys) : List.Forall₂ (List.Forall₂ R) (rows k xs) (rows k ys) := by
  rw [rows, rows, h.length_eq, List.forall₂_map_left_iff, List.forall₂_map_right_iff,
    List.forall₂_same]
  intro r _
  exact List.forall₂_take k (List.forall₂_drop (r * k) h)

end CrcTables
