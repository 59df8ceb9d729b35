import CrcTables.Checksum.Calculator

/-!
# Several calculators at once

A `Bank` keeps calculators under labels.  Steps create, feed, reset, copy and finish them in any
order; a copy goes its own way from then on.

## What is here

* `Bank.find?`, `Bank.put`, `Bank.drop` — the calculators by label.
* `Bank.Step`, `Bank.step` — one step, with the checksum it answers.
-/

set_option autoImplicit false
namespace CrcTables

/-- Calculators under labels, at most one under each. -/
structure Bank where
  /-- Labels with their calculators. -/
  entries : List (String × Calculator)

namespace Bank

/-- The bank without calculators. -/
def empty : Bank := ⟨[]⟩

/-- The calculator under a label. -/
def find? (b : Bank) (label : String) : Option Calculator := b.entries.lookup label

/-- The bank without a label. -/
def drop (b : Bank) (label : String) : Bank :=
  ⟨b.entries.filter fun e ↦ e.1 ≠ label⟩

/-- The bank with a calculator under a label, in place of any that was there. -/
def put (b : Bank) (label : String) (c : Calculator) : Bank :=
  ⟨(label, c) :: (b.drop label).entries⟩

/-- What can be done with calculators. -/
inductive Step where
  /-- A calculator of a variant starts under a label. -/
  | create (label : String) (variant : Variant)
  /-- Data goes into a calculator. -/
  | update (label : String) (data : List UInt8)
  /-- A calculator forgets its data. -/
  | reset (label : String)
  /-- A calculator is asked for its checksum. -/
  | value (label : String)
  /-- A second label gets a copy of a calculator. -/
  | copy (source target : String)
  /-- A calculator answers its checksum and is gone. -/
  | finish (label : String)

/-- The bank after a calculator was replaced under `label`, with its checksum. -/
def answer (b : Bank) (label : String) (c : Calculator) : Bank × Option UInt64 :=
  (b.put label c, some c.value)

/-- One step, and the checksum of the calculator that it made or touched.  A label without a
calculator changes nothing and answers nothing. -/
def step (b : Bank) : Step → Bank × Option UInt64
  | .create label v => b.answer label (.new v)
  | .update label data => match b.find? label with
    | some c => b.answer label (c.update data)
    | none => (b, none)
  | .reset label => match b.find? label with
    | some c => b.answer label c.reset
    | none => (b, none)
  | .value label => (b, (b.find? label).map (·.value))
  | .copy source target => match b.find? source with
    | some c => b.answer target c
    | none => (b, none)
  | .finish label => (b.drop label, (b.find? label).map (·.value))

end Bank
end CrcTables
