import CrcTables.Table

/-!
# Two table-driven engines

Both engines take a register and the bytes of a message to the register after those bytes.  The
plain engine looks one byte at a time up in one table.  The slicing engine takes eight bytes at a
time: it adds them to the register as a little-endian word and looks each of the eight bytes of
the sum up in a table of its own.  The first byte of the word has seven bytes behind it and goes
through table 7, the last has none and goes through table 0.  The plain engine finishes what is
left when fewer than eight bytes remain.

## What is here

* `Slicing.tables` — the eight tables of a polynomial.
* `Slicing.bytewise`, `Slicing.slice8` — the two engines.
-/

set_option autoImplicit false
namespace CrcTables
namespace Slicing

/-- Eight tables, one for each byte of a word. -/
abbrev Tables := Vector Table 8

/-- The first eight tables of a reflected polynomial. -/
def tables (p : UInt64) : Tables :=
  ⟨(Table.slices p 8).toArray, by simp⟩

/-- The register after one byte, by one lookup. -/
def step (t : Table) (r : UInt64) (byte : UInt8) : UInt64 :=
  t.lookup (r ^^^ byte.toUInt64).toUInt8 ^^^ (r >>> 8)

/-- The register after some bytes, by one lookup for each byte. -/
def bytewise (t : Table) (r : UInt64) (data : List UInt8) : UInt64 :=
  data.foldl (step t) r

/-- The word of eight bytes, the first byte lowest. -/
def littleEndian (b0 b1 b2 b3 b4 b5 b6 b7 : UInt8) : UInt64 :=
  b0.toUInt64 ||| b1.toUInt64 <<< 8 ||| b2.toUInt64 <<< 16 ||| b3.toUInt64 <<< 24 |||
    b4.toUInt64 <<< 32 ||| b5.toUInt64 <<< 40 ||| b6.toUInt64 <<< 48 ||| b7.toUInt64 <<< 56

/-- Eight lookups: each byte of a word in the table for the number of bytes behind it. -/
def lookupWord (ts : Tables) (w : UInt64) : UInt64 :=
  ts[7].lookup w.toUInt8 ^^^ ts[6].lookup (w >>> 8).toUInt8 ^^^
    ts[5].lookup (w >>> 16).toUInt8 ^^^ ts[4].lookup (w >>> 24).toUInt8 ^^^
    ts[3].lookup (w >>> 32).toUInt8 ^^^ ts[2].lookup (w >>> 40).toUInt8 ^^^
    ts[1].lookup (w >>> 48).toUInt8 ^^^ ts.head.lookup (w >>> 56).toUInt8

/-- The register after some bytes, by eight lookups for each whole group of eight bytes and one
for each byte left over. -/
def slice8 (ts : Tables) (r : UInt64) : List UInt8 → UInt64
  | b0 :: b1 :: b2 :: b3 :: b4 :: b5 :: b6 :: b7 :: rest =>
    slice8 ts (lookupWord ts (r ^^^ littleEndian b0 b1 b2 b3 b4 b5 b6 b7)) rest
  | rest => bytewise ts.head r rest

end Slicing
end CrcTables
