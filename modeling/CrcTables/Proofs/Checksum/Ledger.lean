import CrcTables.Checksum.Bank
import CrcTables.Proofs.Checksum.Engines
import Mathlib.Data.Option.Basic
import Mathlib.Logic.Function.Basic

/-!
# What calculators were fed

A bank of calculators is only as good as the checksums it answers.  This file keeps a *ledger*
beside the bank: for each label, the variant of its calculator and the data that went into it since
it was created or last reset.  The ledger knows nothing of tables or registers, and it is what
decides every answer of the bank.

## What is here

* `Bank.Record`, `Bank.Ledger` — the ledger, and how a step changes it.
* `Bank.Ledger.Agrees` — each calculator of the bank is the one that a fresh calculator becomes when
  it is fed the recorded data all at once.
* `Bank.Ledger.Agrees.step` — a step keeps the bank and the ledger in agreement.
* `Bank.run_keeps_history` — after any steps, every calculator has its variant, its tables, and the
  checksum of the data recorded for it.
-/

set_option autoImplicit false
namespace CrcTables

/-! ## A calculator and its data -/

namespace Calculator

theorem new_update_nil (v : Variant) : (new v).update [] = new v := rfl

/-- Data in two pieces goes in as if it were one. -/
theorem new_update_update (v : Variant) (a b : List UInt8) :
    ((new v).update a).update b = (new v).update (a ++ b) :=
  (consistent_new v).update_update a b

/-- However the data is cut into pieces, they go in as if they were one. -/
theorem foldl_update (v : Variant) (pieces : List (List UInt8)) (data : List UInt8) :
    pieces.foldl update ((new v).update data) = (new v).update (data ++ pieces.flatten) := by
  induction pieces generalizing data with
  | nil => simp
  | cons piece pieces ih =>
    rw [List.foldl_cons, new_update_update, ih, List.flatten_cons, List.append_assoc]

end Calculator

namespace Bank

/-! ## Labels -/

theorem find?_drop (b : Bank) (label other : String) :
    (b.drop label).find? other = if other = label then none else b.find? other := by
  obtain ⟨entries⟩ := b
  simp only [find?, drop]
  induction entries with
  | nil => simp
  | cons e entries ih =>
    obtain ⟨key, c⟩ := e
    by_cases hkey : key = label
    · subst hkey
      rw [List.filter_cons_of_neg (by simp), ih]
      by_cases hother : other = key
      · simp [hother]
      · simp [hother, List.lookup_cons, beq_false_of_ne hother]
    · rw [List.filter_cons_of_pos (by simpa using hkey), List.lookup_cons, List.lookup_cons, ih]
      by_cases hother : other = key
      · subst hother
        simp [hkey]
      · simp [beq_false_of_ne hother]

theorem find?_put (b : Bank) (label other : String) (c : Calculator) :
    (b.put label c).find? other = if other = label then some c else b.find? other := by
  have hdrop := find?_drop b label other
  rw [find?] at hdrop
  rw [find?, put, List.lookup_cons, hdrop]
  by_cases hother : other = label
  · simp [hother]
  · simp [hother, beq_false_of_ne hother]

/-! ## The ledger -/

/-- What a calculator is to answer for. -/
structure Record where
  /-- The variant it was created with. -/
  variant : Variant
  /-- The data since it was created or last reset. -/
  data : List UInt8

/-- The record of each label that has a calculator. -/
abbrev Ledger := String → Option Record

namespace Record

/-- The checksum of the data. -/
def checksum (r : Record) : UInt64 := Calculator.compute r.variant r.data

/-- A fresh calculator that was fed the data all at once. -/
def calculator (r : Record) : Calculator := (Calculator.new r.variant).update r.data

/-- What a record says of a calculator. -/
structure Describes (r : Record) (c : Calculator) : Prop where
  /-- The calculator has the variant it was created with. -/
  variant : c.variant = r.variant
  /-- It uses the tables of its polynomial. -/
  tables : c.tables = Slicing.tables r.variant.polynomial
  /-- Its checksum is that of the data. -/
  value : c.value = r.checksum

theorem describes_calculator (r : Record) : r.Describes r.calculator := ⟨rfl, rfl, rfl⟩

end Record

namespace Ledger

/-- The ledger after a step: new data goes behind the old, a reset forgets it, and a copy starts
with the data of its source. -/
def step (l : Ledger) : Step → Ledger
  | .create label v => Function.update l label (some ⟨v, []⟩)
  | .update label data =>
    Function.update l label ((l label).map fun r ↦ ⟨r.variant, r.data ++ data⟩)
  | .reset label => Function.update l label ((l label).map fun r ↦ ⟨r.variant, []⟩)
  | .value _ => l
  | .copy source target => Function.update l target (l source <|> l target)
  | .finish label => Function.update l label none

/-- The checksum that is due after a step. -/
def answer (l : Ledger) : Step → Option UInt64
  | .create _ v => some (Calculator.compute v [])
  | .update label data => (l label).map fun r ↦ Calculator.compute r.variant (r.data ++ data)
  | .reset label => (l label).map fun r ↦ Calculator.compute r.variant []
  | .value label => (l label).map Record.checksum
  | .copy source _ => (l source).map Record.checksum
  | .finish label => (l label).map Record.checksum

/-- The ledger after some steps, with no calculators at the start. -/
def run (steps : List Step) : Ledger := steps.foldl step fun _ ↦ none

/-- Every calculator of the bank is the one on record, and no other label has one. -/
def Agrees (l : Ledger) (b : Bank) : Prop :=
  ∀ label, b.find? label = (l label).map Record.calculator

theorem agrees_empty : Agrees (fun _ ↦ none) empty := fun _ ↦ rfl

section Agrees

variable {l : Ledger} {b : Bank}

theorem Agrees.find?_eq_none (h : l.Agrees b) {label : String} (hl : l label = none) :
    b.find? label = none := by
  rw [h label, hl, Option.map_none]

theorem Agrees.find?_eq_some (h : l.Agrees b) {label : String} {r : Record}
    (hl : l label = some r) : b.find? label = some r.calculator := by
  rw [h label, hl, Option.map_some]

/-- A calculator that is put under a label goes on record there. -/
theorem Agrees.put (h : l.Agrees b) (label : String) (r : Record) :
    Agrees (Function.update l label (some r)) (b.put label r.calculator) := by
  intro other
  rw [find?_put, h other]
  by_cases hother : other = label
  · subst hother
    simp
  · simp [hother]

theorem Agrees.drop (h : l.Agrees b) (label : String) :
    Agrees (Function.update l label none) (b.drop label) := by
  intro other
  rw [find?_drop, h other]
  by_cases hother : other = label
  · subst hother
    simp
  · simp [hother]

theorem update_eq_self_of_none {label : String} (hl : l label = none) :
    Function.update l label none = l := by
  rw [← hl, Function.update_eq_self]

/-- **A step keeps the bank and the ledger in agreement**, and is answered from the ledger. -/
theorem Agrees.step (h : l.Agrees b) (s : Step) :
    (l.step s).Agrees (b.step s).1 ∧ (b.step s).2 = l.answer s := by
  cases s with
  | create label v => exact ⟨h.put label ⟨v, []⟩, rfl⟩
  | update label data =>
    cases hl : l label with
    | none =>
      simp only [Ledger.step, Bank.step, answer, hl, h.find?_eq_none hl, Option.map_none,
        update_eq_self_of_none hl]
      exact ⟨h, trivial⟩
    | some r =>
      have hfed : r.calculator.update data = Record.calculator ⟨r.variant, r.data ++ data⟩ :=
        Calculator.new_update_update r.variant r.data data
      simp only [Ledger.step, Bank.step, answer, hl, h.find?_eq_some hl, Option.map_some, hfed]
      exact ⟨h.put label _, rfl⟩
  | reset label =>
    cases hl : l label with
    | none =>
      simp only [Ledger.step, Bank.step, answer, hl, h.find?_eq_none hl, Option.map_none,
        update_eq_self_of_none hl]
      exact ⟨h, trivial⟩
    | some r =>
      have hfresh : r.calculator.reset = Record.calculator ⟨r.variant, []⟩ :=
        (Calculator.new_update_nil r.variant).symm
      simp only [Ledger.step, Bank.step, answer, hl, h.find?_eq_some hl, Option.map_some, hfresh]
      exact ⟨h.put label _, rfl⟩
  | value label =>
    refine ⟨h, ?_⟩
    simp only [Bank.step, answer, h label, Option.map_map]
    rfl
  | copy source target =>
    cases hl : l source with
    | none =>
      simp only [Ledger.step, Bank.step, answer, hl, h.find?_eq_none hl, Option.map_none]
      exact ⟨by simpa using h, trivial⟩
    | some r =>
      simp only [Ledger.step, Bank.step, answer, hl, h.find?_eq_some hl, Option.map_some]
      exact ⟨h.put target r, rfl⟩
  | finish label =>
    refine ⟨h.drop label, ?_⟩
    simp only [Bank.step, answer, h label, Option.map_map]
    rfl

end Agrees

end Ledger

/-! ## Runs -/

/-- The bank after some steps, with no calculators at the start. -/
def run (steps : List Step) : Bank := steps.foldl (fun b s ↦ (b.step s).1) empty

/-- The ledger follows the bank through every run. -/
theorem agrees_run (steps : List Step) : (Ledger.run steps).Agrees (run steps) := by
  -- the steps are taken from any bank and ledger that agree
  have hrun : ∀ (steps : List Step) {l : Ledger} {b : Bank}, l.Agrees b →
      (steps.foldl Ledger.step l).Agrees (steps.foldl (fun b s ↦ (b.step s).1) b) := by
    intro steps
    induction steps with
    | nil => exact fun h ↦ h
    | cons s steps ih => exact fun h ↦ ih (h.step s).1
  exact hrun steps Ledger.agrees_empty

/-- **Calculators keep their history.**  After any steps in any order, a label has a calculator
exactly if the ledger has a record of it, and the record describes the calculator: its variant, its
tables and its checksum.  The next step, whichever it is, is answered from the ledger.  In
particular it does not matter in which pieces the data of a message arrives. -/
theorem run_keeps_history (steps : List Step) :
    (∀ label, Option.Rel Record.Describes (Ledger.run steps label) ((run steps).find? label)) ∧
      (∀ s, ((run steps).step s).2 = (Ledger.run steps).answer s) ∧
      ∀ (v : Variant) (pieces : List (List UInt8)),
        (pieces.foldl Calculator.update (.new v)).value =
          Calculator.compute v pieces.flatten := by
  have hagrees := agrees_run steps
  refine ⟨fun label ↦ ?_, fun s ↦ (hagrees.step s).2, fun v pieces ↦ ?_⟩
  · rw [hagrees label]
    cases Ledger.run steps label with
    | none => exact .none
    | some r => exact .some r.describes_calculator
  · rw [← Calculator.new_update_nil v, Calculator.foldl_update, List.nil_append]
    rfl

end Bank
end CrcTables
