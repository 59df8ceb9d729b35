import CrcTables.Register

/-!
# Lookup tables

A lookup table holds one register value for each byte value.  The *base* table of a polynomial
lets a register take in a whole byte in one step.  Further tables let it take in several bytes in
one step: table `k` answers for a byte that has `k` more bytes behind it, so each table comes from
the one before by pushing a zero byte through the register.

## What is here

* `Table.entry`, `Table.base` — eight rounds from a byte, and the table of these.
* `Table.next` — the table for one more byte behind, computed by lookups in the base table.
* `Table.slices` — the first tables of a polynomial, the base table first.
-/

set_option autoImplicit false
namespace CrcTables

/-- One register value for each of the 256 byte values. -/
abbrev Table := Vector UInt64 256

namespace Table

/-- The number of entries of a table. -/
def size : Nat := 256

/-- The entry at a byte value. -/
def lookup (t : Table) (byte : UInt8) : UInt64 :=
  have inside : byte.toNat < 256 := byte.toNat_lt
  t[byte.toNat]

/-- The register eight rounds after it held just `byte`. -/
def entry (p : UInt64) (byte : UInt8) : UInt64 :=
  Register.rounds p 8 byte.toUInt64

/-- The table of a reflected polynomial for bytes with nothing behind them. -/
def base (p : UInt64) : Table :=
  Vector.ofFn fun i ↦ entry p (UInt8.ofNat i.val)

/-- The register after a zero byte, by a lookup in the base table: the low byte picks an entry,
which is added to the other seven bytes. -/
def pushZero (base : Table) (r : UInt64) : UInt64 :=
  (r >>> 8) ^^^ base.lookup r.toUInt8

/-- The table for bytes with one more byte behind them than those of `prev`. -/
def next (base prev : Table) : Table :=
  prev.map (pushZero base)

/-- The table `t` and the `n - 1` tables after it. -/
def chain (base : Table) : Nat → Table → List Table
  | 0, _ => []
  | n + 1, t => t :: chain base n (next base t)

/-- The first `n` tables of a reflected polynomial, the base table first. -/
def slices (p : UInt64) (n : Nat) : List Table :=
  let t := base p
  chain t n t

/-- A chain has the length asked for. -/
@[simp] theorem length_chain (b : Table) (n : Nat) (t : Table) : (chain b n t).length = n := by
  induction n generalizing t with
  | zero => rfl
  | succ n ih => simp [chain, ih]

/-- The tables of a polynomial are as many as asked for. -/
@[simp] theorem length_slices (p : UInt64) (n : Nat) : (slices p n).length = n := by
  simp [slices]

end Table
end CrcTables
