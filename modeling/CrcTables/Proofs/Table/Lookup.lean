import CrcTables.Proofs.Register.Linearity
import CrcTables.Table
import Mathlib.Logic.Function.Iterate

/-!
# What the tables hold

The base table holds the register eight rounds after each byte value.  Pushing a zero byte by a
lookup in it is eight rounds of *any* register, so the table `k` places behind the base table holds
the register after `k` more bytes.

## What is here

* `Table.pushZero_base` — the step from one table to the next is eight rounds.
* `Table.lookup_slices` — entry by entry, what each table of a polynomial holds.
* `Table.take_slices` — the first of many tables are the tables of a smaller set.
-/

set_option autoImplicit false
namespace CrcTables
namespace Table

/-! ## The base table -/

theorem lookup_base (p : UInt64) (byte : UInt8) :
    (base p).lookup byte = Register.rounds p 8 byte.toUInt64 := by
  simp [lookup, base, entry]

/-- **A zero byte is eight rounds**: a lookup in the base table runs them for every register. -/
theorem pushZero_base (p r : UInt64) : pushZero (base p) r = Register.rounds p 8 r := by
  rw [pushZero, lookup_base, ← Register.rounds_eight]

/-! ## The tables behind it -/

theorem lookup_next (b t : Table) (byte : UInt8) :
    (next b t).lookup byte = pushZero b (t.lookup byte) := by
  simp [lookup, next]

/-- Table `k` of a chain is `k` steps behind the first. -/
theorem getElem_chain (b t : Table) (n k : Nat) (h : k < (chain b n t).length) :
    (chain b n t)[k] = (next b)^[k] t := by
  induction n generalizing t k with
  | zero => simp [chain] at h
  | succ n ih =>
    cases k with
    | zero => rfl
    | succ k =>
      simp only [chain, List.getElem_cons_succ, Function.iterate_succ_apply]
      exact ih (next b t) k _

theorem lookup_iterate_next (p : UInt64) (k : Nat) (byte : UInt8) :
    ((next (base p))^[k] (base p)).lookup byte = Register.rounds p (8 * (k + 1)) byte.toUInt64 := by
  induction k with
  | zero => exact lookup_base p byte
  | succ k ih =>
    rw [Function.iterate_succ_apply', lookup_next, ih, pushZero_base, ← Register.rounds_add]
    rfl

/-- **What the tables hold**: table `k` of a polynomial has, for each byte, the register after that
byte and `k` zero bytes. -/
theorem lookup_slices (p : UInt64) (n k : Nat) (h : k < (slices p n).length) (byte : UInt8) :
    (slices p n)[k].lookup byte = Register.rounds p (8 * (k + 1)) byte.toUInt64 := by
  simp only [slices, getElem_chain]
  exact lookup_iterate_next p k byte

/-! ## Larger and smaller sets -/

theorem take_chain (b t : Table) (m n : Nat) : (chain b n t).take m = chain b (min m n) t := by
  induction n generalizing m t with
  | zero => simp [chain]
  | succ n ih =>
    cases m with
    | zero => simp [chain]
    | succ m => rw [chain, List.take_succ_cons, ih, Nat.succ_min_succ, chain]

/-- **A smaller set is the beginning of a larger one.** -/
theorem take_slices (p : UInt64) (m n : Nat) : (slices p n).take m = slices p (min m n) :=
  take_chain (base p) (base p) m n

end Table
end CrcTables
