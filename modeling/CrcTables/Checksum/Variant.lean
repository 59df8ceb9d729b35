import CrcTables.Generator

/-!
# Variants of CRC-64

A variant is a reflected polynomial together with the word that the register starts from and the
word that is added to it at the end.  Catalogues identify a variant by the checksum of a fixed
message, `checkMessage`.

## What is here

* `Variant`, with the three presets `Variant.jones`, `Variant.ecma182` and `Variant.nvme`.
* `Variant.custom` — any other choice of the three words.
* `Variant.byName?` — a preset by its name, in either case.
-/

set_option autoImplicit false
namespace CrcTables

/-- The parameters of a reflected CRC-64. -/
structure Variant where
  /-- A name for people. -/
  name : String
  /-- The generator polynomial in reflected form. -/
  polynomial : UInt64
  /-- The register before any data. -/
  init : UInt64
  /-- The word added to the register at the end. -/
  xorOut : UInt64
  /-- The checksum of the check message, if a catalogue gives it. -/
  check? : Option UInt64
  deriving DecidableEq, Repr

namespace Variant

/-- The message whose checksum catalogues give: the digits from 1 to 9 in ASCII. -/
def checkMessage : List UInt8 := [0x31, 0x32, 0x33, 0x34, 0x35, 0x36, 0x37, 0x38, 0x39]

/-- CRC-64/Jones: the register starts from zero, and nothing is added. -/
def jones : Variant := ⟨"jones", Generator.jones, 0, 0, some 0xe9c6d914c4b8d9ca⟩

/-- CRC-64/ECMA-182 as XZ computes it: all bits set at the start and flipped at the end. -/
def ecma182 : Variant :=
  ⟨"ecma182", Generator.ecma182, 0xffffffffffffffff, 0xffffffffffffffff,
    some 0x995dc9bbdf1939fa⟩

/-- CRC-64/NVMe: all bits set at the start and flipped at the end. -/
def nvme : Variant :=
  ⟨"nvme", Generator.nvme, 0xffffffffffffffff, 0xffffffffffffffff, some 0xae8b14860a799888⟩

/-- The presets, in the order in which they are listed. -/
def presets : List Variant := [jones, ecma182, nvme]

instance : Inhabited Variant := ⟨jones⟩

/-- Any choice of the three words; no catalogue value is known for it. -/
def custom (polynomial init xorOut : UInt64) : Variant :=
  ⟨"custom", polynomial, init, xorOut, none⟩

/-- The preset of a name, where the case of ASCII letters does not count. -/
def byName? (name : String) : Option Variant :=
  presets.find? fun v ↦ v.name.toList = name.toList.map Char.toLower

/-- The polynomial in normal form. -/
def normalPolynomial (v : Variant) : UInt64 := Generator.reflect v.polynomial

end Variant
end CrcTables
