import CrcTables.Proofs.Checksum.Engines
import Mathlib.Algebra.Field.ZMod
import Mathlib.Algebra.Polynomial.FieldDivision
import Mathlib.Tactic.Ring

/-!
# A checksum is a remainder

A CRC is defined by polynomial division over the two-element field: the message, read as a
polynomial, is divided by the generator, and the remainder is the checksum.  This file says so of
`Calculator.compute`, for every variant and every message.

## What is here

* `Division.ofWord`, `Division.toWord` — words as polynomials of degree below 64, and back.
* `Division.generator` — the polynomial of degree 64 that a reflected word stands for.
* `Division.ofMessage` — a message as a polynomial; the first bit that goes in, the lowest of the
  first byte, is the leading coefficient.
* `Division.remainder` — what division by the generator leaves.
* `Division.ofWord_reflect_shift` — a round of the register multiplies by `X`, up to a multiple of
  the generator.
* `Division.compute_eq_remainder` — the checksum, as the remainder of the division.

The register holds its polynomial backwards, bit 63 being the constant coefficient, so all of the
statements speak of the reflected register.
-/

set_option autoImplicit false
namespace CrcTables
namespace Division

open Polynomial Generator

/-! ## Words and messages as polynomials -/

/-- The polynomial in which bit `i` of a word is the coefficient of `X ^ i`. -/
noncomputable def ofWord (w : UInt64) : (ZMod 2)[X] :=
  ∑ i : Fin 64, if w.toBitVec.getLsbD i then X ^ (i : Nat) else 0

/-- The word in which bit `i` is the coefficient of `X ^ i`. -/
noncomputable def toWord (f : (ZMod 2)[X]) : UInt64 :=
  ⟨(BitVec.ofBoolListLE ((List.range 64).map fun i ↦ decide (f.coeff i = 1))).setWidth 64⟩

/-- The generator that a reflected polynomial stands for: its normal form holds all coefficients
but the leading one. -/
noncomputable def generator (p : UInt64) : (ZMod 2)[X] := X ^ 64 + ofWord (reflect p)

/-- The bits of a byte as coefficients, the lowest bit leading. -/
noncomputable def ofByte (b : UInt8) : (ZMod 2)[X] :=
  ∑ j : Fin 8, if b.toBitVec.getLsbD j then X ^ (7 - (j : Nat)) else 0

/-- The bits of a message as coefficients, byte by byte and the lowest bit of each byte first; the
first bit of all leads. -/
noncomputable def ofMessage (data : List UInt8) : (ZMod 2)[X] :=
  ∑ i : Fin data.length, ∑ j : Fin 8,
    if data[i].toBitVec.getLsbD j then X ^ (8 * data.length - 1 - (8 * (i : Nat) + j)) else 0

/-- What division by the generator leaves of the initial register, moved up by the length of the
message, and the message, moved up by the length of the register. -/
noncomputable def remainder (p init : UInt64) (data : List UInt8) : (ZMod 2)[X] :=
  (ofWord (reflect init) * X ^ (8 * data.length) + ofMessage data * X ^ 64) % generator p

/-! ## Words -/

theorem coeff_ofWord (w : UInt64) (i : Nat) :
    (ofWord w).coeff i = if w.toBitVec.getLsbD i then 1 else 0 := by
  rw [ofWord, finsetSum_coeff]
  by_cases hi : i < 64
  · rw [Finset.sum_eq_single ⟨i, hi⟩]
    · cases w.toBitVec.getLsbD i <;> simp
    · intro j _ hj
      have hne : i ≠ j := fun h ↦ hj (Fin.ext h.symm)
      cases w.toBitVec.getLsbD j <;> simp [coeff_X_pow, hne]
    · simp
  · rw [BitVec.getLsbD_of_ge _ _ (by omega)]
    refine Finset.sum_eq_zero fun j _ ↦ ?_
    have hne : i ≠ j := by omega
    cases w.toBitVec.getLsbD j <;> simp [coeff_X_pow, hne]

theorem degree_ofWord_lt (w : UInt64) : (ofWord w).degree < 64 := by
  refine (degree_lt_iff_coeff_zero _ 64).2 fun i hi ↦ ?_
  rw [coeff_ofWord, BitVec.getLsbD_of_ge _ _ hi]
  rfl

theorem getLsbD_toWord (f : (ZMod 2)[X]) {i : Nat} (hi : i < 64) :
    (toWord f).toBitVec.getLsbD i = decide (f.coeff i = 1) := by
  rw [toWord, BitVec.getLsbD_setWidth, BitVec.getLsbD_ofBoolListLE]
  simp [hi, List.getD_eq_getElem?_getD]

/-- **Nothing is lost** between a word and its polynomial. -/
theorem toWord_ofWord (w : UInt64) : toWord (ofWord w) = w := by
  refine Register.eq_of_bits fun i hi ↦ ?_
  rw [getLsbD_toWord _ hi, coeff_ofWord]
  cases w.toBitVec.getLsbD i <;> simp

/-- Exclusive or is addition. -/
theorem ofWord_xor (a b : UInt64) : ofWord (a ^^^ b) = ofWord a + ofWord b := by
  ext i
  rw [coeff_add, coeff_ofWord, coeff_ofWord, coeff_ofWord, UInt64.toBitVec_xor,
    BitVec.getLsbD_xor]
  cases a.toBitVec.getLsbD i <;> cases b.toBitVec.getLsbD i <;> decide

theorem monic_generator (p : UInt64) : (generator p).Monic :=
  monic_X_pow_add (degree_ofWord_lt _)

theorem degree_generator (p : UInt64) : (generator p).degree = 64 := by
  rw [generator, degree_add_eq_left_of_degree_lt, degree_X_pow]
  · rfl
  · rw [degree_X_pow]
    exact degree_ofWord_lt _

/-! ## The register multiplies -/

theorem reflect_xor (a b : UInt64) : reflect (a ^^^ b) = reflect a ^^^ reflect b := by
  refine Register.eq_of_bits fun i _ ↦ ?_
  simp only [UInt64.toBitVec_xor, BitVec.getLsbD_xor, getLsbD_reflect, BitVec.getMsbD_xor]

/-- Moving the register down by one bit multiplies by `X`, except for the bit that falls off. -/
theorem ofWord_reflect_shiftRight (r : UInt64) :
    ofWord (reflect (r >>> 1)) =
      X * ofWord (reflect r) + if r.toBitVec.getLsbD 0 then X ^ 64 else 0 := by
  have hshift : (r >>> 1).toBitVec = r.toBitVec >>> 1 := by simp
  ext i
  rw [coeff_add, coeff_ofWord, getLsbD_reflect, hshift, BitVec.getMsbD_ushiftRight]
  cases i with
  | zero =>
    rw [mul_coeff_zero, coeff_X_zero]
    cases r.toBitVec.getLsbD 0 <;> simp
  | succ j =>
    rw [coeff_X_mul, coeff_ofWord, getLsbD_reflect]
    rcases Nat.lt_trichotomy j 63 with hj | rfl | hj
    · have hne : j + 1 ≠ 64 := by omega
      cases r.toBitVec.getLsbD 0 <;> simp [coeff_X_pow, hne, show j + 1 < 64 by omega]
    · -- the bit that falls off stands at `X ^ 64` in both terms on the right
      have hlow : r.toBitVec.getMsbD 63 = r.toBitVec.getLsbD 0 := by
        simp [BitVec.getMsbD_eq_getLsbD]
      rw [hlow]
      cases r.toBitVec.getLsbD 0
      · simp
      · simp only [if_true, coeff_X_pow]
        decide
    · have hne : j + 1 ≠ 64 := by omega
      have hge : ¬j + 1 < 64 := by omega
      rw [BitVec.getMsbD_of_ge _ j (by omega)]
      cases r.toBitVec.getLsbD 0 <;> simp [coeff_X_pow, hne, hge]

/-- **A round multiplies by `X`** and takes the generator away if the result has degree 64. -/
theorem ofWord_reflect_shift (p r : UInt64) :
    ofWord (reflect (Register.shift p r)) =
      X * ofWord (reflect r) + if r.toBitVec.getLsbD 0 then generator p else 0 := by
  rw [Register.shift_eq, reflect_xor, ofWord_xor, ofWord_reflect_shiftRight, add_assoc]
  cases r.toBitVec.getLsbD 0
  · have hzero : ofWord (reflect 0) = 0 := by
      ext i
      simp [coeff_ofWord, getLsbD_reflect]
    simp [hzero]
  · simp [generator]

theorem exists_ofWord_reflect_rounds (p : UInt64) (n : Nat) (r : UInt64) :
    ∃ q, ofWord (reflect (Register.rounds p n r)) =
      X ^ n * ofWord (reflect r) + generator p * q := by
  induction n generalizing r with
  | zero => exact ⟨0, by simp [Register.rounds]⟩
  | succ n ih =>
    obtain ⟨q, hq⟩ := ih (Register.shift p r)
    refine ⟨X ^ n * (if r.toBitVec.getLsbD 0 then 1 else 0) + q, ?_⟩
    rw [Register.rounds, hq, ofWord_reflect_shift]
    cases r.toBitVec.getLsbD 0 <;> simp <;> ring

theorem coeff_ofByte (b : UInt8) (i : Nat) :
    (ofByte b).coeff i = if i < 8 ∧ b.toBitVec.getLsbD (7 - i) then 1 else 0 := by
  rw [ofByte, finsetSum_coeff]
  by_cases hi : i < 8
  · rw [Finset.sum_eq_single ⟨7 - i, by omega⟩]
    · have hback : 7 - (7 - i) = i := by omega
      cases b.toBitVec.getLsbD (7 - i) <;> simp [hi, hback]
    · intro j _ hj
      have hne : i ≠ 7 - (j : Nat) := fun h ↦ hj (Fin.ext (by simp only; omega))
      cases b.toBitVec.getLsbD j <;> simp [coeff_X_pow, hne]
    · simp
  · rw [if_neg fun h ↦ hi h.1]
    refine Finset.sum_eq_zero fun j _ ↦ ?_
    have hne : i ≠ 7 - (j : Nat) := by omega
    cases b.toBitVec.getLsbD j <;> simp [coeff_X_pow, hne]

/-- A byte goes in at the high end of the polynomial. -/
theorem ofWord_reflect_byte (b : UInt8) :
    ofWord (reflect b.toUInt64) = X ^ 56 * ofByte b := by
  ext i
  rw [coeff_ofWord, getLsbD_reflect, coeff_X_pow_mul', coeff_ofByte,
    BitVec.getMsbD_eq_getLsbD]
  have hbyte : ∀ j, j < 64 → b.toUInt64.toBitVec.getLsbD j = b.toBitVec.getLsbD j := by
    intro j hj
    simp [hj]
  by_cases hi : i < 64
  · rw [hbyte _ (by omega)]
    by_cases hlow : 56 ≤ i
    · have hj : 64 - 1 - i = 7 - (i - 56) := by omega
      simp [hi, hlow, hj, show i - 56 < 8 by omega]
    · rw [BitVec.getLsbD_of_ge _ _ (by omega)]
      simp [hlow]
  · simp [hi, show ¬i - 56 < 8 by omega]

theorem exists_ofWord_reflect_push (p r : UInt64) (b : UInt8) :
    ∃ q, ofWord (reflect (Register.push p r b)) =
      X ^ 8 * ofWord (reflect r) + X ^ 64 * ofByte b + generator p * q := by
  obtain ⟨q, hq⟩ := exists_ofWord_reflect_rounds p 8 (r ^^^ b.toUInt64)
  refine ⟨q, ?_⟩
  rw [Register.push, hq, reflect_xor, ofWord_xor, ofWord_reflect_byte]
  ring

theorem ofMessage_cons (b : UInt8) (rest : List UInt8) :
    ofMessage (b :: rest) = ofByte b * X ^ (8 * rest.length) + ofMessage rest := by
  have hfirst : ofByte b * X ^ (8 * rest.length) = ∑ j : Fin 8,
      if b.toBitVec.getLsbD j then
        X ^ (8 * (rest.length + 1) - 1 - (8 * 0 + (j : Nat))) else 0 := by
    rw [ofByte, Finset.sum_mul]
    refine Finset.sum_congr rfl fun j _ ↦ ?_
    have hexp : 8 * (rest.length + 1) - 1 - (8 * 0 + (j : Nat)) =
        7 - (j : Nat) + 8 * rest.length := by
      omega
    rw [hexp, pow_add]
    split <;> simp
  have hrest : ofMessage rest = ∑ i : Fin rest.length, ∑ j : Fin 8,
      if rest[i].toBitVec.getLsbD j then
        X ^ (8 * (rest.length + 1) - 1 - (8 * ((i : Nat) + 1) + j)) else 0 := by
    refine Finset.sum_congr rfl fun i _ ↦ Finset.sum_congr rfl fun j _ ↦ ?_
    have hexp : 8 * (rest.length + 1) - 1 - (8 * ((i : Nat) + 1) + j) =
        8 * rest.length - 1 - (8 * (i : Nat) + j) := by
      omega
    rw [hexp]
  rw [hfirst, hrest]
  exact Fin.sum_univ_succ _

/-- **The register divides.**  After a message it holds the message behind what it held before, up
to a multiple of the generator. -/
theorem exists_ofWord_reflect_run (p r : UInt64) (data : List UInt8) :
    ∃ q, ofWord (reflect (Register.run p r data)) =
      ofWord (reflect r) * X ^ (8 * data.length) + ofMessage data * X ^ 64 + generator p * q := by
  induction data generalizing r with
  | nil => exact ⟨0, by simp [Register.run, ofMessage]⟩
  | cons b rest ih =>
    obtain ⟨q, hq⟩ := exists_ofWord_reflect_push p r b
    obtain ⟨q', hq'⟩ := ih (Register.push p r b)
    refine ⟨X ^ (8 * rest.length) * q + q', ?_⟩
    have hrun : Register.run p r (b :: rest) = Register.run p (Register.push p r b) rest := rfl
    rw [hrun, hq', hq, ofMessage_cons, List.length_cons]
    ring

/-! ## The checksum -/

/-- The reflected register after a message is the remainder. -/
theorem remainder_eq_ofWord_run (p init : UInt64) (data : List UInt8) :
    remainder p init data = ofWord (reflect (Register.run p init data)) := by
  obtain ⟨q, hq⟩ := exists_ofWord_reflect_run p init data
  rw [remainder, ← modByMonic_eq_mod _ (monic_generator p)]
  refine (div_modByMonic_unique (-q) _ (monic_generator p) ⟨?_, ?_⟩).2
  · rw [hq]
    ring
  · rw [degree_generator]
    exact degree_ofWord_lt _

/-- **A checksum is a remainder.**  Divide what the initial register and the message stand for by
the generator; the remainder has degree below 64, and its word, reflected and with the final word
added, is the checksum. -/
theorem compute_eq_remainder (p init xorOut : UInt64) (data : List UInt8) :
    (remainder p init data).degree < 64 ∧
      Calculator.compute (.custom p init xorOut) data =
        reflect (toWord (remainder p init data)) ^^^ xorOut := by
  rw [remainder_eq_ofWord_run]
  refine ⟨degree_ofWord_lt _, ?_⟩
  rw [toWord_ofWord, reflect_reflect, Calculator.compute_eq_run]
  rfl

end Division
end CrcTables
