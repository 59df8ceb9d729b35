import CrcTables.Checksum.Slicing
import CrcTables.Checksum.Variant

/-!
# Calculators

A `Calculator` computes a checksum from pieces of data as they arrive.  It keeps the eight tables
of its variant's polynomial, so that they are computed once, and a register that starts at the
variant's initial value.  The checksum so far is the register with the variant's final word added.

## What is here

* `Calculator.new`, `Calculator.update`, `Calculator.reset`, `Calculator.value`.
* `Calculator.compute` — the checksum of a whole message.
* `Variant.computedCheck`, `Variant.selfTest` — a variant against its catalogue value.
-/

set_option autoImplicit false
namespace CrcTables

/-- A checksum under way. -/
structure Calculator where
  /-- The variant computed. -/
  variant : Variant
  /-- The tables in use. -/
  tables : Slicing.Tables
  /-- The register after the data so far. -/
  register : UInt64

namespace Calculator

/-- A calculator that has seen no data. -/
def new (v : Variant) : Calculator :=
  ⟨v, Slicing.tables v.polynomial, v.init⟩

/-- The calculator after more data. -/
def update (c : Calculator) (data : List UInt8) : Calculator :=
  { c with register := Slicing.slice8 c.tables c.register data }

/-- The calculator with all data forgotten. -/
def reset (c : Calculator) : Calculator :=
  { c with register := c.variant.init }

/-- The checksum of the data so far. -/
def value (c : Calculator) : UInt64 := c.register ^^^ c.variant.xorOut

/-- The checksum of a whole message. -/
def compute (v : Variant) (data : List UInt8) : UInt64 :=
  ((new v).update data).value

end Calculator

namespace Variant

/-- The checksum of the check message. -/
def computedCheck (v : Variant) : UInt64 := Calculator.compute v checkMessage

/-- Whether the checksum of the check message is the catalogue value; `none` if the catalogue has
no value. -/
def selfTest (v : Variant) : Option Bool :=
  v.check?.map fun expected ↦ v.computedCheck == expected

end Variant
end CrcTables
