/-!
# Generator polynomials

A CRC-64 is fixed by a generator polynomial of degree 64 over the two-element field.  Its leading
coefficient is always one, so the other 64 coefficients fill one word.  Catalogues list the
*normal* form of that word, in which bit `i` is the coefficient of `x ^ i`.  The tables of this
library are made from the *reflected* form, in which bit `i` is the coefficient of
`x ^ (63 - i)`, because the register they drive shifts to the right.

## What is here

* `Generator.jones`, `Generator.ecma182`, `Generator.nvme` — the reflected forms of three
  polynomials in wide use.
* `Generator.reflect` — the conversion between the two forms, which is its own inverse
  (`Generator.reflect_reflect`).
-/

set_option autoImplicit false
namespace CrcTables
namespace Generator

/-- The reflected Jones polynomial; its normal form is `0xad93d23594c935a9`. -/
def jones : UInt64 := 0x95ac9329ac4bc9b5

/-- The reflected ECMA-182 polynomial; its normal form is `0x42f0e1eba9ea3693`. -/
def ecma182 : UInt64 := 0xc96c5795d7870f42

/-- The reflected NVMe polynomial; its normal form is `0xad93d23594c93659`. -/
def nvme : UInt64 := 0x9a6c9329ac4bc9b5

/-- The word with its 64 bits in the opposite order: the normal form of a reflected polynomial,
and the reflected form of a normal one. -/
def reflect (w : UInt64) : UInt64 := ⟨w.toBitVec.reverse⟩

/-- Bit `i` of the reflected word is bit `63 - i` of the word. -/
theorem getLsbD_reflect (w : UInt64) (i : Nat) :
    (reflect w).toBitVec.getLsbD i = w.toBitVec.getMsbD i := by
  simp [reflect, BitVec.getLsbD_reverse]

/-- **Reflecting twice gives the word back.** -/
theorem reflect_reflect (w : UInt64) : reflect (reflect w) = w := by
  simp [reflect]

end Generator
end CrcTables
