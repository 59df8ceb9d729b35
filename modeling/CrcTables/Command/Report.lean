import CrcTables.Command.Json
import CrcTables.Command.Surroundings
import CrcTables.Checksum.Calculator
import CrcTables.Text.Lines

/-!
# Reports

Checksums and presets are reported either as lines for people or as records for programs.

## What is here

* `ChecksumRecord`, `checksumsOf` — the checksum of each input, all or none.
* `checksumReport`, `presetReport` — the two reports.
-/

set_option autoImplicit false
namespace CrcTables

/-- The checksum of an input. -/
structure ChecksumRecord where
  /-- The name of the input. -/
  name : String
  /-- The name of the variant. -/
  algorithm : String
  /-- The checksum. -/
  crc : UInt64
  /-- The number of bytes of the input. -/
  bytes : Nat
  deriving DecidableEq, Repr

/-- The checksums of some inputs, in order, or the first reason why one cannot be read.  One
calculator serves all of them; it forgets its data before each. -/
def checksumsOf (c : Calculator) : List Source → Except FileFault (List ChecksumRecord)
  | [] => .ok []
  | s :: rest =>
    match s.opened with
    | .error e => .error e
    | .ok deliveries =>
      match c.reset.absorb deliveries with
      | (_, .error e) => .error e
      | (c, .ok count) =>
        match checksumsOf c rest with
        | .error e => .error e
        | .ok records => .ok (⟨s.name, c.variant.name, c.value, count⟩ :: records)

namespace ChecksumRecord

/-- A checksum for people. -/
def line (r : ChecksumRecord) : List Char :=
  Text.word16 r.crc ++ [' ', ' '] ++ r.name.toList

/-- A checksum for programs. -/
def json (r : ChecksumRecord) : JsonRecord :=
  [("file", .text r.name), ("algorithm", .text r.algorithm),
    ("crc", .text (String.ofList (Text.marked16 r.crc))), ("bytes", .number r.bytes)]

end ChecksumRecord

/-- The report of some checksums. -/
def checksumReport (json : Bool) (rs : List ChecksumRecord) : List Char :=
  if json then jsonList (rs.map ChecksumRecord.json) ++ ['\n']
  else Text.unlines (rs.map ChecksumRecord.line)

/-- A row of the table of presets: the name, five columns of words, and the verdict. -/
def presetRow (name normal reflected init xorOut check verdict : List Char) : List Char :=
  let column (s : List Char) : List Char := ' ' :: s.leftpad 18 ' '
  name.rightpad 8 ' ' ++ column normal ++ column reflected ++ column init ++ column xorOut ++
    column check ++ [' ', ' '] ++ verdict

namespace Variant

/-- The verdict of a variant's test against the catalogue. -/
def verdict (v : Variant) : List Char :=
  match v.selfTest with
  | some true => "ok".toList
  | some false => "FAILED".toList
  | none => "-".toList

/-- A variant for people. -/
def row (v : Variant) : List Char :=
  presetRow v.name.toList (Text.marked16 v.normalPolynomial) (Text.marked16 v.polynomial)
    (Text.marked16 v.init) (Text.marked16 v.xorOut)
    ((v.check?.map Text.marked16).getD "-".toList) v.verdict

/-- A word for programs. -/
def jsonWord (w : UInt64) : JsonValue := .text (String.ofList (Text.marked16 w))

/-- A variant for programs; without a catalogue value that field is left out. -/
def json (v : Variant) : JsonRecord :=
  [("name", .text v.name), ("normal", jsonWord v.normalPolynomial),
    ("reflected", jsonWord v.polynomial), ("init", jsonWord v.init),
    ("xor_out", jsonWord v.xorOut)] ++
    (v.check?.map fun w ↦ ("check", jsonWord w)).toList ++
    [("self_test", (v.selfTest.map .truth).getD .null)]

end Variant

/-- The first row of the table of presets. -/
def presetHeader : List Char :=
  presetRow "Name".toList "Normal".toList "Reflected".toList "Init".toList "XorOut".toList
    "Check".toList "Self-test".toList

/-- The report of some variants. -/
def presetReport (json : Bool) (vs : List Variant) : List Char :=
  if json then jsonList (vs.map Variant.json) ++ ['\n']
  else Text.unlines (presetHeader :: List.replicate 111 '-' :: vs.map Variant.row)

end CrcTables
