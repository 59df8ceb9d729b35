import CrcTables.Register

/-!
# The register is linear

A round of the register is linear over exclusive or, whatever the polynomial: two registers that
are added and then run a round end where the sum of their rounds is.  Everything that the lookup
tables and the slicing engine do rests on this.

## What is here

* `Register.rounds_xor` — any number of rounds is linear.
* `Register.toBitVec_rounds_of_low_zero` — as long as only zeros fall off the low end, the rounds
  are a plain shift.
* `Register.rounds_eight` — eight rounds of a register: the low byte runs them on its own, and the
  other seven bytes move down by one.  A table only has to answer for the low byte because of this.
* `Register.rounds_bytes` — the same for as many bytes as there are to come.
* `Register.run_replicate_zero` — zero bytes that go in are rounds and nothing else.
-/

set_option autoImplicit false
namespace CrcTables
namespace Register

/-! ## One round -/

/-- Words with the same bits are equal. -/
theorem eq_of_bits {a b : UInt64}
    (h : ∀ i < 64, a.toBitVec.getLsbD i = b.toBitVec.getLsbD i) : a = b :=
  UInt64.toBitVec_inj.1 (BitVec.eq_of_getLsbD_eq h)

/-- The test of a round reads the lowest bit. -/
theorem and_one_eq_zero_iff (r : UInt64) : r &&& 1 = 0 ↔ r.toBitVec.getLsbD 0 = false := by
  constructor
  · intro h
    simpa using congrArg (fun w : UInt64 ↦ w.toBitVec.getLsbD 0) h
  · intro h
    refine eq_of_bits fun i _ ↦ ?_
    rcases Nat.eq_zero_or_pos i with rfl | hi
    · simpa using h
    · simp [BitVec.getLsbD_one, Nat.ne_of_gt hi]

/-- A round, by the bit that falls off. -/
theorem shift_eq (p r : UInt64) :
    shift p r = (r >>> 1) ^^^ (if r.toBitVec.getLsbD 0 then p else 0) := by
  rw [shift]
  by_cases h : r &&& 1 = 0
  · rw [if_pos h, (and_one_eq_zero_iff r).1 h]
    simp
  · have hb : r.toBitVec.getLsbD 0 = true := by
      simpa using mt (and_one_eq_zero_iff r).2 h
    rw [if_neg h, hb, if_pos rfl, UInt64.xor_comm]

/-- **A round is linear.** -/
theorem shift_xor (p a b : UInt64) : shift p (a ^^^ b) = shift p a ^^^ shift p b := by
  simp only [shift_eq, UInt64.toBitVec_xor, BitVec.getLsbD_xor, UInt64.shiftRight_xor]
  -- the polynomial is added on the left exactly if it is added once, not twice, on the right
  cases a.toBitVec.getLsbD 0 <;> cases b.toBitVec.getLsbD 0
  · simp
  · simp [UInt64.xor_assoc]
  · simp only [Bool.bne_false, Bool.false_eq_true, if_true, if_false, UInt64.xor_zero]
    ac_rfl
  · have cancel : (a >>> 1 ^^^ p) ^^^ (b >>> 1 ^^^ p) = (a >>> 1 ^^^ b >>> 1) ^^^ (p ^^^ p) := by
      ac_rfl
    simp [cancel]

/-! ## Several rounds -/

/-- **Any number of rounds is linear.** -/
theorem rounds_xor (p : UInt64) (n : Nat) (a b : UInt64) :
    rounds p n (a ^^^ b) = rounds p n a ^^^ rounds p n b := by
  induction n generalizing a b with
  | zero => rfl
  | succ n ih => rw [rounds, rounds, rounds, shift_xor, ih]

theorem rounds_zero_right (p : UInt64) (n : Nat) : rounds p n 0 = 0 := by
  have h := rounds_xor p n 0 0
  simpa using h

/-- Rounds in which only zeros fall off shift the register. -/
theorem toBitVec_rounds_of_low_zero (p : UInt64) (n : Nat) (r : UInt64)
    (h : ∀ i, i < n → r.toBitVec.getLsbD i = false) :
    (rounds p n r).toBitVec = r.toBitVec >>> n := by
  induction n generalizing r with
  | zero => simp [rounds]
  | succ n ih =>
    have hs : (shift p r).toBitVec = r.toBitVec >>> 1 := by
      rw [shift_eq, h 0 (by omega)]
      simp
    rw [rounds, ih, hs, ← BitVec.shiftRight_add, Nat.add_comm]
    intro i hi
    rw [hs, BitVec.getLsbD_ushiftRight]
    exact h (1 + i) (by omega)

/-! ## Whole bytes -/

/-- A register is its low byte and what stands above it. -/
theorem low_byte_xor_rest (r : UInt64) :
    r = r.toUInt8.toUInt64 ^^^ (r ^^^ r.toUInt8.toUInt64) := by
  rw [UInt64.xor_comm r, ← UInt64.xor_assoc, UInt64.xor_self, UInt64.zero_xor]

theorem getLsbD_toUInt64_toUInt8 (r : UInt64) (i : Nat) :
    r.toUInt8.toUInt64.toBitVec.getLsbD i = (decide (i < 8) && r.toBitVec.getLsbD i) := by
  show (BitVec.setWidth 64 (BitVec.setWidth 8 r.toBitVec)).getLsbD i = _
  by_cases h : i < 8
  · simp [h, show i < 64 by omega]
  · simp [h]

/-- **Eight rounds, by bytes**: the low byte runs them on its own, and the others move down. -/
theorem rounds_eight (p r : UInt64) :
    rounds p 8 r = (r >>> 8) ^^^ rounds p 8 r.toUInt8.toUInt64 := by
  have hrest : rounds p 8 (r ^^^ r.toUInt8.toUInt64) = r >>> 8 := by
    refine eq_of_bits fun i _ ↦ ?_
    rw [toBitVec_rounds_of_low_zero]
    · rw [BitVec.getLsbD_ushiftRight, UInt64.toBitVec_xor, BitVec.getLsbD_xor,
        getLsbD_toUInt64_toUInt8]
      simp [show ¬8 + i < 8 by omega]
    · intro i hi
      rw [UInt64.toBitVec_xor, BitVec.getLsbD_xor, getLsbD_toUInt64_toUInt8]
      simp [hi]
  conv => lhs; rw [low_byte_xor_rest r]
  rw [rounds_xor, hrest, UInt64.xor_comm]

/-- The rounds of several bytes: the low byte runs all of them, the others one byte less. -/
theorem rounds_bytes (p : UInt64) (n : Nat) (r : UInt64) :
    rounds p (8 * (n + 1)) r =
      rounds p (8 * n) (r >>> 8) ^^^ rounds p (8 * (n + 1)) r.toUInt8.toUInt64 := by
  have hsplit : 8 * (n + 1) = 8 + 8 * n := by omega
  rw [hsplit, rounds_add, rounds_eight, rounds_xor, ← rounds_add]

/-- A byte that goes in is added to its share of the rounds. -/
theorem push_eq (p r : UInt64) (byte : UInt8) :
    push p r byte = rounds p 8 r ^^^ rounds p 8 byte.toUInt64 := by
  rw [push, rounds_xor]

/-- Zero bytes only run rounds. -/
theorem run_replicate_zero (p r : UInt64) (n : Nat) :
    run p r (List.replicate n 0) = rounds p (8 * n) r := by
  induction n generalizing r with
  | zero => rfl
  | succ n ih =>
    have hpush : push p r 0 = rounds p 8 r := congrArg (rounds p 8) UInt64.xor_zero
    have hlength : 8 * (n + 1) = 8 + 8 * n := by omega
    rw [List.replicate_succ, run, List.foldl_cons, hpush, hlength, rounds_add]
    exact ih (rounds p 8 r)

end Register
end CrcTables
