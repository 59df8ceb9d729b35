import CrcTables.Proofs.Checksum.Engines
import CrcTables.Table.TableSet

/-!
# What the tables stand for

A CRC circuit is a register that is clocked once for each bit: it moves to the right, and the
polynomial is fed back if the bit that falls off is set.  Tables and engines are there to do many
clocks at once.  This file says of the tables that are generated, and of the engine that looks one
byte at a time up in them, which clocks they stand for.

## What is here

* `Register.clock` — one clock of the circuit; any number of rounds is that many clocks
  (`Register.rounds_eq_iterate_clock`).
* `Table.Answers` — a table holds the register after a byte and a number of zero bytes.
* `TableSet.generate_sliced` — which sets of tables are generated, and that each of their tables
  answers for its place.
* `Slicing.bytewise_eq_clock` — the plain engine is eight clocks for each byte.
-/

set_option autoImplicit false
namespace CrcTables

/-! ## The circuit -/

namespace Register

/-- One clock: the polynomial is added to the register, which has moved one bit to the right, if its
low bit was set. -/
def clock (p r : UInt64) : UInt64 :=
  if r &&& 1 = 1 then p ^^^ (r >>> 1) else r >>> 1

theorem shift_eq_clock (p r : UInt64) : shift p r = clock p r := by
  have hbit : (r &&& 1).toNat = r.toNat % 2 := by
    rw [UInt64.toNat_and]
    exact Nat.and_one_is_mod r.toNat
  rw [shift, clock]
  rcases Nat.mod_two_eq_zero_or_one r.toNat with h | h
  · have hzero : r &&& 1 = 0 := UInt64.toNat_inj.1 (hbit.trans h)
    simp [hzero]
  · have hone : r &&& 1 = 1 := UInt64.toNat_inj.1 (hbit.trans h)
    simp [hone]

/-- **Rounds are clocks.** -/
theorem rounds_eq_iterate_clock (p : UInt64) (n : Nat) (r : UInt64) :
    rounds p n r = (clock p)^[n] r := by
  induction n generalizing r with
  | zero => rfl
  | succ n ih => rw [rounds, ih, shift_eq_clock, Function.iterate_succ_apply]

/-- A byte that goes into an empty register with zero bytes behind it. -/
theorem run_cons_replicate_zero (p : UInt64) (byte : UInt8) (k : Nat) :
    run p 0 (byte :: List.replicate k 0) = rounds p (8 * (k + 1)) byte.toUInt64 := by
  have hpush : push p 0 byte = rounds p 8 byte.toUInt64 := congrArg (rounds p 8) UInt64.zero_xor
  have hlength : 8 * (k + 1) = 8 + 8 * k := by omega
  rw [run, List.foldl_cons, hpush, ← run, run_replicate_zero, hlength, rounds_add]

end Register

/-! ## Tables -/

namespace Table

/-- A table answers for bytes that have `k` more bytes behind them. -/
structure Answers (t : Table) (p : UInt64) (k : Nat) : Prop where
  /-- The entry of a byte is the register that held it, after the clocks of all the bytes. -/
  clocks : ∀ byte, t.lookup byte = (Register.clock p)^[8 * (k + 1)] byte.toUInt64
  /-- The same register comes of pushing the byte and as many zero bytes. -/
  zeros : ∀ byte, t.lookup byte = Register.run p 0 (byte :: List.replicate k 0)

/-- Table `k` of a polynomial answers for bytes with `k` bytes behind them. -/
theorem answers_slices (p : UInt64) (n k : Nat) (h : k < (slices p n).length) :
    (slices p n)[k].Answers p k where
  clocks byte := by rw [lookup_slices, Register.rounds_eq_iterate_clock]
  zeros byte := by rw [lookup_slices, Register.run_cons_replicate_zero]

end Table

/-- **What is generated**, for every number of tables.  A set of 1 to 64 tables is generated, and
its table `k` answers for bytes with `k` bytes behind them; any other number is refused by name.
The eight tables of the slicing engine answer for the same bytes, so they are the set of eight, and
every smaller set is the beginning of every larger one. -/
theorem TableSet.generate_sliced (p : UInt64) (n : Nat) :
    (generate p (.sliced n) =
        if 1 ≤ n ∧ n ≤ 64 then .ok (.sliced (Table.slices p n)) else .error (.sliceCount n)) ∧
      (Table.slices p n).length = n ∧
      (∀ k : Fin n, (Table.slices p n)[k].Answers p k) ∧
      (∀ k : Fin 8, (Slicing.tables p)[k].Answers p k) ∧
      (Slicing.tables p).toList = Table.slices p 8 ∧
      ∀ m, (Table.slices p n).take m = Table.slices p (min m n) := by
  refine ⟨?generated, Table.length_slices p n, fun k ↦ Table.answers_slices p n k _,
    fun k ↦ Table.answers_slices p 8 k (by simp), rfl, fun m ↦ Table.take_slices p m n⟩
  case generated =>
    by_cases h : 1 ≤ n ∧ n ≤ 64
    · have hcheck : (Layout.sliced n).check = .ok () := if_pos h
      rw [if_pos h, generate, hcheck]
    · have hcheck : (Layout.sliced n).check = .error (.sliceCount n) := if_neg h
      rw [if_neg h, generate, hcheck]

/-! ## The plain engine -/

/-- **The plain engine is the circuit**: for each byte in order, the byte is added to the low end of
the register, and the whole register is clocked eight times.  The table was computed from registers
of one byte only. -/
theorem Slicing.bytewise_eq_clock (p r : UInt64) (data : List UInt8) :
    bytewise (tables p).head r data =
      data.foldl (fun r byte ↦ (Register.clock p)^[8] (r ^^^ byte.toUInt64)) r := by
  have hpush : Register.push p = fun r byte ↦ (Register.clock p)^[8] (r ^^^ byte.toUInt64) :=
    funext fun r ↦ funext fun byte ↦ Register.rounds_eq_iterate_clock p 8 (r ^^^ byte.toUInt64)
  rw [head_tables, bytewise_base, Register.run, hpush]

end CrcTables
