import CrcTables.Proofs.Checksum.Words

/-!
# The residue of a message with its checksum

A message is often sent with its checksum behind it, the lowest byte first.  The receiver need not
know where the message ends: the checksum of the whole is the same for all messages.  The bytes of
the checksum meet the register that they came from, and of the two only the final word is left.

## What is here

* `Register.run_append_wordBytes` — a register that meets its own bytes, with a word added to them.
* `Variant.residue`, `Calculator.compute_append_self` — the checksum of a message with its checksum.
* `Calculator.compute_append_checksum` — it is the same for any two messages, and zero if the final
  word is.
-/

set_option autoImplicit false
namespace CrcTables

open Slicing

/-- **The register meets its own bytes**: of the message and of the starting value nothing is left,
and what was added to the bytes goes through sixty-four rounds. -/
theorem Register.run_append_wordBytes (p r x : UInt64) (data : List UInt8) :
    run p r (data ++ wordBytes (run p r data ^^^ x)) = rounds p 64 x := by
  rw [run_append, run_wordBytes, ← UInt64.xor_assoc, UInt64.xor_self, UInt64.zero_xor]

/-- The checksum of every message that has its own checksum behind it. -/
def Variant.residue (v : Variant) : UInt64 := Register.rounds v.polynomial 64 v.xorOut ^^^ v.xorOut

/-- Nothing is left if nothing is added at the end. -/
theorem Variant.residue_eq_zero {v : Variant} (h : v.xorOut = 0) : v.residue = 0 := by
  rw [residue, h, Register.rounds_zero_right, UInt64.xor_self]

namespace Calculator

/-- The checksum of a message with its checksum behind it does not depend on the message. -/
theorem compute_append_self (v : Variant) (data : List UInt8) :
    compute v (data ++ wordBytes (compute v data)) = v.residue := by
  rw [compute_eq_run, compute_eq_run, Register.run_append_wordBytes, Variant.residue]

/-- **The residue is constant**: any two messages, of any lengths, with their checksums behind them
have the same checksum, and it is zero if the final word is zero. -/
theorem compute_append_checksum (v : Variant) (a b : List UInt8) :
    compute v (a ++ wordBytes (compute v a)) = compute v (b ++ wordBytes (compute v b)) ∧
      (v.xorOut = 0 → compute v (a ++ wordBytes (compute v a)) = 0) := by
  rw [compute_append_self, compute_append_self]
  exact ⟨rfl, Variant.residue_eq_zero⟩

/-- The check message with the catalogue's checksum behind it: nine bytes, so that the eight bytes of
the checksum begin inside a word. -/
theorem compute_append_checksum_jones :
    Variant.jones.xorOut = 0 ∧
      compute .jones (Variant.checkMessage ++ [0xca, 0xd9, 0xb8, 0xc4, 0x14, 0xd9, 0xc6, 0xe9]) =
        compute .jones ([] ++ wordBytes (compute .jones [])) ∧
      compute .jones
        (Variant.checkMessage ++ [0xca, 0xd9, 0xb8, 0xc4, 0x14, 0xd9, 0xc6, 0xe9]) = 0 := by
  have hxorOut : Variant.jones.xorOut = 0 := rfl
  have hcheck : compute .jones Variant.checkMessage = 0xe9c6d914c4b8d9ca := by
    rw [compute_eq_run]
    decide +kernel
  have hbytes : wordBytes (compute .jones Variant.checkMessage) =
      [0xca, 0xd9, 0xb8, 0xc4, 0x14, 0xd9, 0xc6, 0xe9] := by
    rw [hcheck]
    decide
  obtain ⟨hsame, hzero⟩ := compute_append_checksum .jones Variant.checkMessage []
  rw [hbytes] at hsame hzero
  exact ⟨hxorOut, hsame, hzero hxorOut⟩

end Calculator
end CrcTables
