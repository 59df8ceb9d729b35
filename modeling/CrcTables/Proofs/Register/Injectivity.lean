import CrcTables.Proofs.Register.Superposition
import Mathlib.Logic.Function.Defs

/-!
# When the register forgets nothing

A round drops the lowest bit of the register, and adds the polynomial if that bit is set.  If the
top bit of the polynomial is set, the top bit of the register tells afterwards whether it was added,
so every round can be taken back.  If it is clear, some register other than zero is taken to zero,
and what was in it is lost.

## What is here

* `Register.rounds_injective` — with the top bit set, no number of rounds takes two registers to
  one.
* `Register.exists_shift_eq_zero` — with the top bit clear, one round does.
* `Register.run_left_injective` — two registers stay apart whatever message goes into both.
-/

set_option autoImplicit false
namespace CrcTables
namespace Register

/-! ## Rounds -/

section TopBit

variable {p : UInt64} (hp : p.toBitVec.getLsbD 63 = true)

include hp

/-- The top bit tells whether the polynomial was added. -/
theorem getLsbD_shift_top (r : UInt64) :
    (shift p r).toBitVec.getLsbD 63 = r.toBitVec.getLsbD 0 := by
  rw [shift_eq]
  cases r.toBitVec.getLsbD 0 <;> simp [hp]

/-- Only zero is taken to zero. -/
theorem eq_zero_of_shift_eq_zero {r : UInt64} (h : shift p r = 0) : r = 0 := by
  have hlow : r.toBitVec.getLsbD 0 = false := by
    rw [← getLsbD_shift_top hp r, h]
    simp
  have hhigh : r >>> 1 = 0 := by
    rw [shift_eq, hlow] at h
    simpa using h
  refine eq_of_bits fun i _ ↦ ?_
  cases i with
  | zero => simpa using hlow
  | succ i => simpa [Nat.add_comm] using congrArg (fun w : UInt64 ↦ w.toBitVec.getLsbD i) hhigh

theorem shift_injective : Function.Injective (shift p) := by
  intro a b hab
  refine UInt64.xor_eq_zero_iff.1 (eq_zero_of_shift_eq_zero hp ?_)
  rw [shift_xor, hab, UInt64.xor_self]

/-- **With the top bit set, rounds forget nothing.** -/
theorem rounds_injective (n : Nat) : Function.Injective (rounds p n) := by
  induction n with
  | zero => exact fun _ _ h ↦ h
  | succ n ih => exact fun a b h ↦ shift_injective hp (ih h)

end TopBit

/-- **With the top bit clear, a round forgets something**: it takes the register that would have
become the polynomial to zero, since the lowest bit of that register is set. -/
theorem exists_shift_eq_zero {p : UInt64} (hp : p.toBitVec.getLsbD 63 = false) :
    ∃ r ≠ 0, shift p r = 0 := by
  have hlow : ((1 : UInt64) ^^^ p <<< 1).toBitVec.getLsbD 0 = true := by simp
  have hhigh : ((1 : UInt64) ^^^ p <<< 1) >>> 1 = p := by
    refine eq_of_bits fun i hi ↦ ?_
    rcases Nat.lt_or_ge i 63 with h | h
    · have hnext : i + 1 < 64 := by omega
      simp [Nat.add_comm 1 i, hnext, BitVec.getLsbD_eq_getElem hi]
    · obtain rfl : i = 63 := by omega
      simpa using hp.symm
  refine ⟨(1 : UInt64) ^^^ p <<< 1, fun hzero ↦ ?_, ?_⟩
  · rw [hzero] at hlow
    simp at hlow
  · rw [shift_eq, hlow, if_pos rfl, hhigh, UInt64.xor_self]

/-! ## Messages -/

/-- **Two registers stay apart**, whatever goes into both. -/
theorem run_left_injective {p : UInt64} (hp : p.toBitVec.getLsbD 63 = true) (data : List UInt8) :
    Function.Injective fun r ↦ run p r data := by
  intro a b hab
  have ha := run_xor p a 0 data
  have hb := run_xor p b 0 data
  rw [UInt64.xor_zero] at ha hb
  refine rounds_injective hp (8 * data.length) ((UInt64.xor_left_inj (run p 0 data)).1 ?_)
  rw [← ha, ← hb]
  exact hab

end Register
end CrcTables
