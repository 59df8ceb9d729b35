import CrcTables.Proofs.Checksum.Words
import CrcTables.Proofs.Register.Injectivity

/-!
# Errors in a burst

A burst is a stretch of a message outside which nothing has changed.  A checksum finds every burst
of at most eight bytes, wherever it stands, exactly if the top bit of the reflected polynomial is
set.  Eight bytes fill a register, so the stretch alone already decides where the register is behind
it; if the register forgets nothing, the bytes behind the stretch cannot bring it back.

## What is here

* `Register.eq_of_run_eq` — different stretches of the same length, at most eight bytes, never take
  a register to the same place, if the top bit is set.
* `Register.exists_run_eq_zero` — if it is clear, eight bytes that are not all zero can stand for
  eight zeros.
* `DetectsBursts`, `detectsBursts_iff` — the property of a polynomial, and when it holds.
-/

set_option autoImplicit false
namespace CrcTables

/-! ## A stretch of at most eight bytes -/

namespace Register

open Slicing

/-- Zeros do nothing to an empty register. -/
theorem run_zero_replicate_append (p : UInt64) (n : Nat) (x : List UInt8) :
    run p 0 (List.replicate n 0 ++ x) = run p 0 x := by
  rw [run_append, run_replicate_zero, rounds_zero_right]

/-- **A short stretch decides where the register is behind it**: stretches of the same length, at
most eight bytes, that take a register to the same place are the same. -/
theorem eq_of_run_eq {p : UInt64} (hp : p.toBitVec.getLsbD 63 = true) {r : UInt64}
    {x y : List UInt8} (hlength : x.length = y.length) (hx : x.length ≤ 8)
    (h : run p r x = run p r y) : x = y := by
  -- the register before the stretch does not matter
  have hzero : run p 0 x = run p 0 y := by
    have hsplit := fun data ↦ run_xor p r 0 data
    simp only [UInt64.xor_zero] at hsplit
    rwa [hsplit x, hsplit y, hlength, UInt64.xor_right_inj] at h
  -- with zeros in front, the stretch is a whole word
  have hpad : ∀ data : List UInt8, data.length ≤ 8 →
      ∃ w, wordBytes w = List.replicate (8 - data.length) 0 ++ data := by
    intro data hdata
    refine exists_wordBytes_eq ?_
    rw [List.length_append, List.length_replicate]
    omega
  obtain ⟨v, hv⟩ := hpad x hx
  obtain ⟨w, hw⟩ := hpad y (hlength ▸ hx)
  have hrounds : rounds p 64 v = rounds p 64 w := by
    rw [← UInt64.zero_xor (a := v), ← UInt64.zero_xor (a := w), ← run_wordBytes, ← run_wordBytes,
      hv, hw, run_zero_replicate_append, run_zero_replicate_append, hzero]
  rw [rounds_injective hp 64 hrounds, hw, hlength] at hv
  exact (List.append_cancel_left hv).symm

/-- **If the top bit is clear, a stretch of eight bytes can be missed**: some bytes that are not all
zero take the empty register where zeros take it. -/
theorem exists_run_eq_zero {p : UInt64} (hp : p.toBitVec.getLsbD 63 = false) :
    ∃ x : List UInt8, x.length = 8 ∧ x ≠ List.replicate 8 0 ∧ run p 0 x = 0 := by
  obtain ⟨w, hw, hshift⟩ := exists_shift_eq_zero hp
  refine ⟨wordBytes w, length_wordBytes w, fun hbytes ↦ hw (wordBytes_injective hbytes), ?_⟩
  rw [run_wordBytes, UInt64.zero_xor, rounds, hshift, rounds_zero_right]

end Register

/-! ## Bursts -/

/-- Whatever the initial and the final word are, two messages that differ only inside a stretch of
at most eight bytes, which is as long in both, have different checksums. -/
def DetectsBursts (p : UInt64) : Prop :=
  ∀ (init xorOut : UInt64) (before after x y : List UInt8),
    x ≠ y → x.length = y.length → x.length ≤ 8 →
      Calculator.compute (.custom p init xorOut) (before ++ x ++ after) ≠
        Calculator.compute (.custom p init xorOut) (before ++ y ++ after)

theorem detectsBursts_of_top {p : UInt64} (hp : p.toBitVec.getLsbD 63 = true) :
    DetectsBursts p := by
  intro init xorOut before after x y hne hlength hx heq
  rw [Calculator.compute_eq_run, Calculator.compute_eq_run, UInt64.xor_left_inj] at heq
  simp only [Variant.custom, Register.run_append] at heq
  exact hne (Register.eq_of_run_eq hp hlength hx (Register.run_left_injective hp after heq))

theorem top_of_detectsBursts {p : UInt64} (h : DetectsBursts p) :
    p.toBitVec.getLsbD 63 = true := by
  by_contra hp
  rw [Bool.not_eq_true] at hp
  obtain ⟨x, hlength, hne, hrun⟩ := Register.exists_run_eq_zero hp
  have hzeros : Register.run p 0 (List.replicate 8 0) = 0 := by
    rw [Register.run_replicate_zero, Register.rounds_zero_right]
  refine h 0 0 [] [] x (List.replicate 8 0) hne (by simp [hlength]) (by omega) ?_
  rw [Calculator.compute_eq_run, Calculator.compute_eq_run]
  simp only [Variant.custom, List.nil_append, List.append_nil, hrun, hzeros]

/-- **Every burst of at most eight bytes is found exactly if the top bit of the polynomial is set.**
The polynomials of all presets have it set. -/
theorem detectsBursts_iff :
    (∀ p : UInt64, p.toBitVec.getLsbD 63 = true ↔ DetectsBursts p) ∧
      ∀ v ∈ Variant.presets, DetectsBursts v.polynomial := by
  have hpresets : ∀ v ∈ Variant.presets, v.polynomial.toBitVec.getLsbD 63 = true := by decide
  exact ⟨fun p ↦ ⟨detectsBursts_of_top, top_of_detectsBursts⟩,
    fun v hv ↦ detectsBursts_of_top (hpresets v hv)⟩

end CrcTables
