import CrcTables.Checksum.Stream
import CrcTables.Proofs.Checksum.Engines

/-!
# Data that arrives in blocks

How a reader cuts a message into blocks, and where it is interrupted, makes no difference to a
calculator: either all blocks arrive, and they go in as one piece of data, or a failure ends the
message and is passed on.  The number of bytes has no bound here; a counter of 64 bits shows the
same for every message that it can count.

## What is here

* `Delivery.message`, `Delivery.counter` — the bytes that come, and what a counter of 64 bits shows
  for them (`Delivery.toNat_counter`).
* `Calculator.Consistent.absorb_of_collect` — a message that arrives.
* `Calculator.Consistent.absorb_counter` — the number that is returned is that of the counter.
* `Calculator.absorb_of_failure` — a message that does not.
-/

set_option autoImplicit false
namespace CrcTables

variable {ε : Type}

namespace Delivery

/-! ## What comes -/

/-- The bytes that come. -/
def bytes : Delivery ε → List UInt8
  | block bytes => bytes
  | interrupted => []
  | failure _ => []

/-- The bytes of some attempts, in order. -/
def message (deliveries : List (Delivery ε)) : List UInt8 := deliveries.flatMap bytes

/-- What a counter of 64 bits shows after some attempts: it adds the number of bytes of each, and
starts again from zero where that does not fit. -/
def counter (deliveries : List (Delivery ε)) : UInt64 :=
  deliveries.foldl (fun n d ↦ n + UInt64.ofNat d.bytes.length) 0

theorem foldl_add_length (n : UInt64) (deliveries : List (Delivery ε)) :
    deliveries.foldl (fun n d ↦ n + UInt64.ofNat d.bytes.length) n =
      n + UInt64.ofNat (message deliveries).length := by
  induction deliveries generalizing n with
  | nil => exact (UInt64.add_zero n).symm
  | cons d deliveries ih =>
    rw [List.foldl_cons, ih, UInt64.add_assoc, ← UInt64.ofNat_add, ← List.length_append]
    rfl

/-- **The counter shows the number of bytes** of every message that it can count. -/
theorem toNat_counter {deliveries : List (Delivery ε)}
    (h : (message deliveries).length < 2 ^ 64) :
    (counter deliveries).toNat = (message deliveries).length := by
  rw [counter, foldl_add_length, UInt64.zero_add, UInt64.toNat_ofNat_of_lt' h]

/-! ## A block and what follows it -/

variable {bytes first : List UInt8} {deliveries : List (Delivery ε)}

theorem collect_block_eq_ok_iff :
    collect (block first :: deliveries) = .ok bytes ↔
      ∃ rest, collect deliveries = .ok rest ∧ first ++ rest = bytes := by
  cases h : collect deliveries with
  | error e => simp [collect, h]
  | ok rest => simp [collect, h]

theorem collect_block_eq_error_iff {reason : ε} :
    collect (block first :: deliveries) = .error reason ↔ collect deliveries = .error reason := by
  cases h : collect deliveries with
  | error e => simp [collect, h]
  | ok rest => simp [collect, h]

/-- A message that arrives is made of the bytes that come. -/
theorem message_of_collect (h : collect deliveries = .ok bytes) : message deliveries = bytes := by
  induction deliveries generalizing bytes with
  | nil => exact Except.ok.inj h
  | cons d deliveries ih =>
    cases d with
    | block first =>
      obtain ⟨rest, hrest, rfl⟩ := collect_block_eq_ok_iff.1 h
      exact congrArg (first ++ ·) (ih hrest)
    | interrupted => exact ih h
    | failure e => contradiction

end Delivery

/-! ## Whole messages -/

namespace Calculator

variable {deliveries : List (Delivery ε)} {c : Calculator}

theorem Consistent.absorbFrom_of_collect (h : c.Consistent) {bytes : List UInt8}
    (hcollect : Delivery.collect deliveries = .ok bytes) (count : Nat) :
    c.absorbFrom count deliveries = (c.update bytes, .ok (count + bytes.length)) := by
  induction deliveries generalizing c count bytes with
  | nil =>
    obtain rfl : [] = bytes := Except.ok.inj hcollect
    rfl
  | cons d deliveries ih =>
    cases d with
    | block first =>
      obtain ⟨rest, hrest, rfl⟩ := Delivery.collect_block_eq_ok_iff.1 hcollect
      rw [absorbFrom, ih (h.update first) hrest, h.update_update, List.length_append,
        Nat.add_assoc]
    | interrupted => exact ih h hcollect count
    | failure e => contradiction

/-- **A message that arrives in blocks goes in as one piece**, and its bytes are counted. -/
theorem Consistent.absorb_of_collect (h : c.Consistent) {bytes : List UInt8}
    (hcollect : Delivery.collect deliveries = .ok bytes) :
    c.absorb deliveries = (c.update bytes, .ok bytes.length) := by
  rw [absorb, h.absorbFrom_of_collect hcollect, Nat.zero_add]

/-- **The number that is returned is what a counter of 64 bits shows**, if the message has fewer
than `2 ^ 64` bytes. -/
theorem Consistent.absorb_counter (h : c.Consistent) {bytes : List UInt8}
    (hcollect : Delivery.collect deliveries = .ok bytes) (hlength : bytes.length < 2 ^ 64) :
    (c.absorb deliveries).2 = .ok (Delivery.counter deliveries).toNat := by
  obtain rfl := Delivery.message_of_collect hcollect
  rw [h.absorb_of_collect hcollect, Delivery.toNat_counter hlength]

theorem absorbFrom_of_failure {reason : ε} (hcollect : Delivery.collect deliveries = .error reason)
    (count : Nat) : (c.absorbFrom count deliveries).2 = .error reason := by
  induction deliveries generalizing c count with
  | nil => contradiction
  | cons d deliveries ih =>
    cases d with
    | block first =>
      exact ih (Delivery.collect_block_eq_error_iff.1 hcollect) (count + first.length)
    | interrupted => exact ih hcollect count
    | failure e => exact congrArg Except.error (Except.error.inj hcollect)

/-- **The failure that ends a message is passed on**, whatever came before it. -/
theorem absorb_of_failure {reason : ε} (hcollect : Delivery.collect deliveries = .error reason) :
    (c.absorb deliveries).2 = .error reason :=
  absorbFrom_of_failure hcollect 0

end Calculator
end CrcTables
