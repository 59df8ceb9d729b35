import CrcTables.Proofs.Checksum.Engines

/-!
# Words in a message

Eight bytes of a message are a word, the first byte lowest, and a word is eight bytes.  A word that
goes into the register byte by byte is added to it as a whole, and sixty-four rounds follow.

## What is here

* `Slicing.wordBytes` — the bytes of a word, from which it is put together again
  (`Slicing.littleEndian_wordBytes`).
* `Slicing.run_wordBytes` — a word that goes into the register.
-/

set_option autoImplicit false
namespace CrcTables
namespace Slicing

/-- Words with the same bytes are equal. -/
theorem eq_of_bytes {a b : UInt64}
    (h : ∀ k < 8, (a >>> UInt64.ofNat (8 * k)).toUInt8 = (b >>> UInt64.ofNat (8 * k)).toUInt8) :
    a = b := by
  refine Register.eq_of_bits fun i hi ↦ ?_
  have hbyte : i / 8 < 8 := by omega
  have hshift : 8 * (i / 8) % 64 = 8 * (i / 8) := by omega
  have hbit : i % 8 < 8 := by omega
  -- bit `i` of a word is bit `i % 8` of its byte `i / 8`
  have hget : ∀ w : UInt64, (w >>> UInt64.ofNat (8 * (i / 8))).toUInt8.toBitVec.getLsbD (i % 8) =
      w.toBitVec.getLsbD i := by
    intro w
    have hsum : 8 * (i / 8) + i % 8 = i := by omega
    simp [hshift, hbit, hsum]
  rw [← hget a, ← hget b, h (i / 8) hbyte]

/-- The bytes of a word, the lowest first. -/
def wordBytes (w : UInt64) : List UInt8 :=
  [w.toUInt8, (w >>> 8).toUInt8, (w >>> 16).toUInt8, (w >>> 24).toUInt8, (w >>> 32).toUInt8,
    (w >>> 40).toUInt8, (w >>> 48).toUInt8, (w >>> 56).toUInt8]

theorem length_wordBytes (w : UInt64) : (wordBytes w).length = 8 := rfl

theorem getElem_wordBytes (w : UInt64) (k : Nat) (hk : k < 8) :
    (wordBytes w)[k] = (w >>> UInt64.ofNat (8 * k)).toUInt8 := by
  interval_cases k <;> simp [wordBytes]

theorem wordBytes_injective : Function.Injective wordBytes := by
  intro a b hab
  refine eq_of_bytes fun k hk ↦ ?_
  rw [← getElem_wordBytes a k hk, ← getElem_wordBytes b k hk]
  exact List.getElem_of_eq hab _

/-- Bytes are found again in their word. -/
theorem wordBytes_littleEndian (b0 b1 b2 b3 b4 b5 b6 b7 : UInt8) :
    wordBytes (littleEndian b0 b1 b2 b3 b4 b5 b6 b7) = [b0, b1, b2, b3, b4, b5, b6, b7] := by
  refine List.ext_getElem rfl fun k hk _ ↦ ?_
  rw [getElem_wordBytes _ k hk, byte_littleEndian _ _ _ _ _ _ _ _ k hk]
  rfl

/-- **A word is put together again** from its bytes. -/
theorem littleEndian_wordBytes (w : UInt64) :
    littleEndian w.toUInt8 (w >>> 8).toUInt8 (w >>> 16).toUInt8 (w >>> 24).toUInt8
      (w >>> 32).toUInt8 (w >>> 40).toUInt8 (w >>> 48).toUInt8 (w >>> 56).toUInt8 = w :=
  wordBytes_injective (wordBytes_littleEndian _ _ _ _ _ _ _ _)

/-- The eight bytes of a word take a register where the rounds take its sum with the word. -/
theorem run_wordBytes (p r w : UInt64) :
    Register.run p r (wordBytes w) = Register.rounds p 64 (r ^^^ w) := by
  rw [wordBytes, run_word, littleEndian_wordBytes, lookupWord_tables]

/-- Eight bytes are the bytes of a word. -/
theorem exists_wordBytes_eq {x : List UInt8} (h : x.length = 8) : ∃ w, wordBytes w = x := by
  match x, h with
  | [b0, b1, b2, b3, b4, b5, b6, b7], _ =>
    exact ⟨littleEndian b0 b1 b2 b3 b4 b5 b6 b7, wordBytes_littleEndian b0 b1 b2 b3 b4 b5 b6 b7⟩

end Slicing
end CrcTables
