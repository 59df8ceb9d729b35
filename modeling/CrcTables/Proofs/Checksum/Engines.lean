import CrcTables.Checksum.Calculator
import CrcTables.Proofs.Register.Superposition
import CrcTables.Proofs.Table.Lookup
import Mathlib.Tactic.IntervalCases

/-!
# Both engines run the register

On the tables of a polynomial, the plain engine and the slicing engine take a register to the same
place: where `Register.run` takes it, bit by bit.

## What is here

* `Slicing.bytewise_base` — the plain engine runs the register, since a lookup is eight rounds.
* `Slicing.lookupWord_tables` — eight lookups are sixty-four rounds.
* `Slicing.run_word` — sixty-four rounds take in eight bytes at once, if the bytes are added to the
  register as a little-endian word.
* `Slicing.slice8_tables` — so the slicing engine runs the register as well.
* `Slicing.slice8_eq_bytewise` — the two engines agree on every message.
* `Slicing.slice8_xor` — the slicing engine is linear in register and message together.
* `Calculator.compute_eq_run` — a checksum, without tables.
* `Calculator.Consistent` — a calculator with the tables of its own polynomial, which takes data in
  two pieces as it takes them in one (`Calculator.Consistent.update_update`).
-/

set_option autoImplicit false
namespace CrcTables
namespace Slicing

open Register

/-! ## The plain engine -/

theorem step_base (p r : UInt64) (byte : UInt8) : step (Table.base p) r byte = push p r byte := by
  have hbyte : byte.toUInt64 >>> 8 = 0 := by
    refine eq_of_bits fun i _ ↦ ?_
    simp
  rw [push, rounds_eight, UInt64.shiftRight_xor, hbyte, UInt64.xor_zero, step, Table.lookup_base,
    UInt64.xor_comm]

theorem bytewise_base (p r : UInt64) (data : List UInt8) :
    bytewise (Table.base p) r data = run p r data := by
  have h : step (Table.base p) = push p := funext fun r ↦ funext fun b ↦ step_base p r b
  rw [bytewise, run, h]

/-! ## Eight lookups -/

theorem head_tables (p : UInt64) : (tables p).head = Table.base p := rfl

theorem tables_zero (p : UInt64) : (tables p)[0] = Table.base p := head_tables p

theorem lookup_tables (p : UInt64) (k : Nat) (h : k < 8) (byte : UInt8) :
    (tables p)[k].lookup byte = rounds p (8 * (k + 1)) byte.toUInt64 :=
  Table.lookup_slices p 8 k (by simpa using h) byte

theorem shiftRight_eight (w : UInt64) (k : Nat) (h : k + 8 < 64) :
    (w >>> UInt64.ofNat k) >>> 8 = w >>> UInt64.ofNat (k + 8) := by
  have hk : k % 64 = k := by omega
  have hk' : (k + 8) % 64 = k + 8 := by omega
  refine UInt64.toNat_inj.1 ?_
  simp [hk, hk', Nat.shiftRight_add]

theorem shiftRight_top (w : UInt64) : (w >>> 56) >>> 8 = 0 := by
  refine eq_of_bits fun i _ ↦ ?_
  simp [BitVec.getLsbD_of_ge]

/-- **Eight lookups are sixty-four rounds.** -/
theorem lookupWord_tables (p w : UInt64) : lookupWord (tables p) w = rounds p 64 w := by
  have h16 : w >>> 8 >>> 8 = w >>> 16 := shiftRight_eight w 8 (by decide)
  have h24 : w >>> 16 >>> 8 = w >>> 24 := shiftRight_eight w 16 (by decide)
  have h32 : w >>> 24 >>> 8 = w >>> 32 := shiftRight_eight w 24 (by decide)
  have h40 : w >>> 32 >>> 8 = w >>> 40 := shiftRight_eight w 32 (by decide)
  have h48 : w >>> 40 >>> 8 = w >>> 48 := shiftRight_eight w 40 (by decide)
  have h56 : w >>> 48 >>> 8 = w >>> 56 := shiftRight_eight w 48 (by decide)
  -- the rounds are taken byte by byte from the low end, the table number counting down
  have h : rounds p (8 * (7 + 1)) w = lookupWord (tables p) w := by
    rw [rounds_bytes p 7 w, rounds_bytes p 6 (w >>> 8), h16, rounds_bytes p 5 (w >>> 16), h24,
      rounds_bytes p 4 (w >>> 24), h32, rounds_bytes p 3 (w >>> 32), h40,
      rounds_bytes p 2 (w >>> 40), h48, rounds_bytes p 1 (w >>> 48), h56,
      rounds_bytes p 0 (w >>> 56), shiftRight_top, rounds_zero_right, UInt64.zero_xor]
    simp only [lookupWord, lookup_tables, head_tables, Table.lookup_base]
    ac_rfl
  exact h.symm

/-! ## Eight bytes at once -/

/-- Byte `k` of a little-endian word is byte `k` of the message. -/
theorem byte_littleEndian (b0 b1 b2 b3 b4 b5 b6 b7 : UInt8) (k : Nat) (hk : k < 8) :
    (littleEndian b0 b1 b2 b3 b4 b5 b6 b7 >>> UInt64.ofNat (8 * k)).toUInt8 =
      #v[b0, b1, b2, b3, b4, b5, b6, b7][k] := by
  refine UInt8.toBitVec_inj.1 (BitVec.eq_of_getLsbD_eq fun i hi ↦ ?_)
  -- no two bytes share a bit of the word, which is checked bit by bit
  interval_cases k <;> interval_cases i <;> simp [littleEndian]

/-- The rounds of a little-endian word: each byte has the bytes behind it as zeros. -/
theorem rounds_littleEndian (p : UInt64) (b0 b1 b2 b3 b4 b5 b6 b7 : UInt8) :
    rounds p 64 (littleEndian b0 b1 b2 b3 b4 b5 b6 b7) =
      rounds p 64 b0.toUInt64 ^^^ rounds p 56 b1.toUInt64 ^^^ rounds p 48 b2.toUInt64 ^^^
        rounds p 40 b3.toUInt64 ^^^ rounds p 32 b4.toUInt64 ^^^ rounds p 24 b5.toUInt64 ^^^
        rounds p 16 b6.toUInt64 ^^^ rounds p 8 b7.toUInt64 := by
  have hbyte := byte_littleEndian b0 b1 b2 b3 b4 b5 b6 b7
  rw [← lookupWord_tables]
  generalize littleEndian b0 b1 b2 b3 b4 b5 b6 b7 = w at hbyte
  have h0 : w.toUInt8 = b0 := by simpa using hbyte 0 (by decide)
  have h1 : (w >>> 8).toUInt8 = b1 := hbyte 1 (by decide)
  have h2 : (w >>> 16).toUInt8 = b2 := hbyte 2 (by decide)
  have h3 : (w >>> 24).toUInt8 = b3 := hbyte 3 (by decide)
  have h4 : (w >>> 32).toUInt8 = b4 := hbyte 4 (by decide)
  have h5 : (w >>> 40).toUInt8 = b5 := hbyte 5 (by decide)
  have h6 : (w >>> 48).toUInt8 = b6 := hbyte 6 (by decide)
  have h7 : (w >>> 56).toUInt8 = b7 := hbyte 7 (by decide)
  simp only [lookupWord, lookup_tables, head_tables, Table.lookup_base, h0, h1, h2, h3, h4, h5, h6,
    h7, Nat.reduceAdd, Nat.reduceMul]

/-- **Eight bytes at once**: one after the other they take the register where eight lookups take
its sum with their little-endian word. -/
theorem run_word (p r : UInt64) (b0 b1 b2 b3 b4 b5 b6 b7 : UInt8) :
    run p r [b0, b1, b2, b3, b4, b5, b6, b7] =
      lookupWord (tables p) (r ^^^ littleEndian b0 b1 b2 b3 b4 b5 b6 b7) := by
  rw [lookupWord_tables, rounds_xor, rounds_littleEndian]
  simp only [run, List.foldl_cons, List.foldl_nil, push_eq, rounds_xor, ← rounds_add,
    Nat.reduceAdd]
  ac_rfl

/-! ## The slicing engine -/

/-- **The slicing engine runs the register**, whatever the length of the message. -/
theorem slice8_tables (p r : UInt64) (data : List UInt8) :
    slice8 (tables p) r data = run p r data := by
  -- the recursion of the engine: a whole word, or a rest of fewer than eight bytes
  fun_induction slice8 (tables p) r data with
  | case1 r b0 b1 b2 b3 b4 b5 b6 b7 rest ih =>
    have hsplit : b0 :: b1 :: b2 :: b3 :: b4 :: b5 :: b6 :: b7 :: rest =
        [b0, b1, b2, b3, b4, b5, b6, b7] ++ rest := rfl
    rw [ih, hsplit, run_append, run_word]
  | case2 r rest _ => rw [head_tables, bytewise_base]

/-- **The two engines agree** on the tables of every polynomial, from every register, on messages
of every length. -/
theorem slice8_eq_bytewise (p r : UInt64) (data : List UInt8) :
    slice8 (tables p) r data = bytewise (tables p)[0] r data := by
  rw [slice8_tables, tables_zero, bytewise_base]

/-- **The slicing engine is linear**, for every polynomial and for messages of every length,
although it looks up eight tables at places that depend on the data: the sum of two registers, with
the sum of two messages of the same length, ends at the sum of the two ends. -/
theorem slice8_xor (p a b : UInt64) {x y : List UInt8} (h : x.length = y.length) :
    slice8 (tables p) (a ^^^ b) (List.zipWith (· ^^^ ·) x y) =
      slice8 (tables p) a x ^^^ slice8 (tables p) b y := by
  rw [slice8_tables, slice8_tables, slice8_tables, run_zipWith_xor h]

/-- A word and a tail: all bits of the check message and of the register are flipped. -/
theorem slice8_xor_check_message :
    Variant.checkMessage.length = (List.replicate 9 (0xff : UInt8)).length ∧
      slice8 (tables Generator.nvme) 0xffffffffffffffff
          [0xce, 0xcd, 0xcc, 0xcb, 0xca, 0xc9, 0xc8, 0xc7, 0xc6] =
        slice8 (tables Generator.nvme) 0 Variant.checkMessage ^^^
          slice8 (tables Generator.nvme) 0xffffffffffffffff (List.replicate 9 0xff) := by
  have hlength : Variant.checkMessage.length = (List.replicate 9 (0xff : UInt8)).length := rfl
  have hflipped : List.zipWith (· ^^^ ·) Variant.checkMessage (List.replicate 9 0xff) =
      [0xce, 0xcd, 0xcc, 0xcb, 0xca, 0xc9, 0xc8, 0xc7, 0xc6] := by decide
  have h := slice8_xor Generator.nvme 0 0xffffffffffffffff hlength
  rw [hflipped, UInt64.zero_xor] at h
  exact ⟨hlength, h⟩

end Slicing

/-! ## Calculators -/

namespace Calculator

/-- **A checksum is a run of the register**, with the final word added. -/
theorem compute_eq_run (v : Variant) (data : List UInt8) :
    compute v data = Register.run v.polynomial v.init data ^^^ v.xorOut := by
  show Slicing.slice8 (Slicing.tables v.polynomial) v.init data ^^^ v.xorOut = _
  rw [Slicing.slice8_tables]

/-- The tables of a calculator are those of its polynomial.  A new calculator has them, and nothing
that is done to it changes them. -/
def Consistent (c : Calculator) : Prop := c.tables = Slicing.tables c.variant.polynomial

theorem consistent_new (v : Variant) : (new v).Consistent := rfl

section Consistent

variable {c : Calculator} (h : c.Consistent)

include h

theorem Consistent.update (data : List UInt8) : (c.update data).Consistent := h

/-- A calculator that has forgotten its data is as good as new. -/
theorem Consistent.reset_eq : c.reset = new c.variant := by
  rw [reset, new, h]

/-- **Data in two pieces goes in as if it were one.** -/
theorem Consistent.update_update (a b : List UInt8) :
    (c.update a).update b = c.update (a ++ b) := by
  obtain ⟨v, tables, r⟩ := c
  obtain rfl : tables = Slicing.tables v.polynomial := h
  simp only [Calculator.update, Slicing.slice8_tables, Register.run_append]

end Consistent

end Calculator
end CrcTables
