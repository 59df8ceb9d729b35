import CrcTables.Checksum.Variant

/-!
# Selecting a polynomial

On the command line a polynomial is selected by the name of a preset, or by its word in either
form.  A preset brings its own initial and final words; for a polynomial given as a word they are
zero.
-/

set_option autoImplicit false
namespace CrcTables

/-- How a polynomial is selected. -/
inductive Selection where
  /-- The polynomial of a preset. -/
  | preset (variant : Variant)
  /-- A polynomial in reflected form. -/
  | reflected (word : UInt64)
  /-- A polynomial in normal form. -/
  | normal (word : UInt64)
  deriving DecidableEq, Repr

namespace Selection

instance : Inhabited Selection := ⟨.preset default⟩

/-- The variant of CRC-64 selected. -/
def variant : Selection → Variant
  | preset v => v
  | reflected w => .custom w 0 0
  | normal w => .custom (Generator.reflect w) 0 0

/-- The polynomial selected, in reflected form. -/
def polynomial (s : Selection) : UInt64 := s.variant.polynomial

/-- The variant selected, with other initial and final words if they are given.  A variant with
another word is no longer the one in the catalogue. -/
def variantWith (s : Selection) (init? xorOut? : Option UInt64) : Variant :=
  let v := s.variant
  if init?.isSome || xorOut?.isSome then
    .custom v.polynomial (init?.getD v.init) (xorOut?.getD v.xorOut)
  else v

end Selection
end CrcTables
