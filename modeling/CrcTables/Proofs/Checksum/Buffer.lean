import CrcTables.Proofs.Checksum.Blocks

/-!
# Reading through one buffer

A buffer that is used again and again still holds what earlier attempts left behind the bytes that
came last.  None of this is noticed: the calculator takes in each block once, and nothing else.

## What is here

* `Buffer.take_write` — the bytes that are taken from the buffer are those that were written to it.
* `Delivery.Continues` — the attempts after which the loop goes on.
* `Delivery.Continues.drainFrom_cons`, `Calculator.Consistent.drainFrom_append` — one such attempt,
  and any number of them.
* `Calculator.Consistent.drain_counter` — the number of bytes, as a counter of 64 bits shows it.
* `Calculator.drain_eq_update` — the loop comes down to one update with the whole message.
-/

set_option autoImplicit false
namespace CrcTables

/-! ## The buffer -/

namespace Buffer

/-- **The bytes that were written are taken from the buffer**, and none that were there before. -/
theorem take_write (buffer : Buffer) {bytes : List UInt8}
    (h : bytes.length ≤ Delivery.blockSize) :
    (buffer.write bytes).toList.take bytes.length = bytes := by
  refine List.ext_getElem (by simpa using h) fun i _ hi ↦ ?_
  simp [write, hi]

end Buffer

variable {ε : Type}

/-! ## Attempts after which the loop goes on -/

namespace Delivery

/-- The attempt neither ends the message nor fails: it is interrupted, or some bytes come, no more
than the buffer holds. -/
inductive Continues : Delivery ε → Prop where
  /-- Some bytes come. -/
  | block {bytes : List UInt8} (hne : bytes ≠ []) (hfits : bytes.length ≤ blockSize) :
      Continues (block bytes)
  /-- The attempt is interrupted. -/
  | interrupted : Continues interrupted

/-- **One attempt takes in its own bytes**, whatever the buffer held before. -/
theorem Continues.drainFrom_cons {d : Delivery ε} (hd : d.Continues) (c : Calculator)
    (buffer : Buffer) (count : Nat) (rest : List (Delivery ε)) :
    ∃ after, c.drainFrom buffer count (d :: rest) =
      (c.update d.bytes).drainFrom after (count + d.bytes.length) rest := by
  cases hd with
  | @block bytes hne hfits =>
    refine ⟨buffer.write bytes, ?_⟩
    rw [Calculator.drainFrom, if_neg hne, Buffer.take_write buffer hfits]
    rfl
  | interrupted => exact ⟨buffer, rfl⟩

/-- The same without a buffer. -/
theorem Continues.absorbFrom_cons {d : Delivery ε} (hd : d.Continues) (c : Calculator)
    (count : Nat) (rest : List (Delivery ε)) :
    c.absorbFrom count (d :: rest) =
      (c.update d.bytes).absorbFrom (count + d.bytes.length) rest := by
  cases hd <;> rfl

end Delivery

/-! ## Whole messages -/

namespace Calculator

open Delivery

variable {c : Calculator} {before : List (Delivery ε)}

/-- **Any number of attempts take in their bytes**, each once, and the loop is where it would be
after one update with all of them. -/
theorem Consistent.drainFrom_append (h : c.Consistent) (hbefore : ∀ d ∈ before, d.Continues)
    (buffer : Buffer) (count : Nat) (rest : List (Delivery ε)) :
    ∃ after, c.drainFrom buffer count (before ++ rest) =
      (c.update (message before)).drainFrom after (count + (message before).length) rest := by
  induction before generalizing c buffer count with
  | nil => exact ⟨buffer, rfl⟩
  | cons d before ih =>
    rw [List.forall_mem_cons] at hbefore
    obtain ⟨filled, hstep⟩ := hbefore.1.drainFrom_cons c buffer count (before ++ rest)
    obtain ⟨after, hrun⟩ := ih (h.update d.bytes) hbefore.2 filled (count + d.bytes.length)
    refine ⟨after, ?_⟩
    rw [List.cons_append, hstep, hrun, h.update_update, Nat.add_assoc, ← List.length_append]
    rfl

/-- The same without a buffer. -/
theorem Consistent.absorbFrom_append (h : c.Consistent) (hbefore : ∀ d ∈ before, d.Continues)
    (count : Nat) (rest : List (Delivery ε)) :
    c.absorbFrom count (before ++ rest) =
      (c.update (message before)).absorbFrom (count + (message before).length) rest := by
  induction before generalizing c count with
  | nil => rfl
  | cons d before ih =>
    rw [List.forall_mem_cons] at hbefore
    rw [List.cons_append, hbefore.1.absorbFrom_cons, ih (h.update d.bytes) hbefore.2,
      h.update_update, Nat.add_assoc, ← List.length_append]
    rfl

/-- Up to the end of the message all its bytes are taken in and counted. -/
theorem Consistent.drain_of_continues (h : c.Consistent) (hbefore : ∀ d ∈ before, d.Continues) :
    c.drain before = (c.update (message before), .ok (message before).length) := by
  obtain ⟨after, hrun⟩ := h.drainFrom_append hbefore .fresh 0 []
  rw [List.append_nil, Nat.zero_add] at hrun
  exact hrun

/-- **The number of bytes that came through the buffer is what a counter of 64 bits shows**, if
there are fewer than `2 ^ 64`. -/
theorem Consistent.drain_counter (h : c.Consistent) (hbefore : ∀ d ∈ before, d.Continues)
    (hlength : (message before).length < 2 ^ 64) :
    (c.drain before).2 = .ok (counter before).toNat := by
  rw [h.drain_of_continues hbefore, toNat_counter hlength]

/-- **Reading through a buffer is one update.**  A reader brings blocks of any sizes, with
interruptions anywhere.  If then nothing more comes, the calculator is the one that a single update
with the whole message makes, and the number of its bytes is returned.  If reading fails instead,
that failure is returned, and the calculator has taken in the blocks before it.  What stands behind
the end or the failure is not read, and without a buffer it would be just the same. -/
theorem drain_eq_update (h : c.Consistent) (hbefore : ∀ d ∈ before, d.Continues) :
    (c.drain before = (c.update (message before), .ok (message before).length) ∧
        ∀ later, c.drain (before ++ .block [] :: later) =
          (c.update (message before), .ok (message before).length)) ∧
      (∀ reason later, c.drain (before ++ .failure reason :: later) =
        (c.update (message before), .error reason)) ∧
      c.absorb before = (c.update (message before), .ok (message before).length) ∧
      ∀ reason later, c.absorb (before ++ .failure reason :: later) =
        (c.update (message before), .error reason) := by
  have hdrain := h.drainFrom_append hbefore .fresh 0
  have habsorb := h.absorbFrom_append hbefore 0
  refine ⟨⟨h.drain_of_continues hbefore, fun later ↦ ?nothing⟩, fun reason later ↦ ?failed,
    ?absorbed, fun reason later ↦ ?absorbedFailed⟩
  case nothing =>
    obtain ⟨after, hrun⟩ := hdrain (.block [] :: later)
    rw [drain, hrun, Nat.zero_add]
    rfl
  case failed =>
    obtain ⟨after, hrun⟩ := hdrain (.failure reason :: later)
    rw [drain, hrun]
    rfl
  case absorbed =>
    have hrun := habsorb []
    rw [List.append_nil, Nat.zero_add] at hrun
    exact hrun
  case absorbedFailed =>
    rw [absorb, habsorb]
    rfl

/-- The check message in three blocks, none of them a whole word, with interruptions between them;
then the end in one run and a failure in the other. -/
theorem drain_eq_update_uneven :
    (new .jones).Consistent ∧
      (∀ d ∈ ([.block [0x31, 0x32, 0x33], .interrupted, .block [0x34], .interrupted,
        .block [0x35, 0x36, 0x37, 0x38, 0x39]] : List (Delivery String)), d.Continues) ∧
      (new .jones).drain ([.block [0x31, 0x32, 0x33], .interrupted, .block [0x34], .interrupted,
          .block [0x35, 0x36, 0x37, 0x38, 0x39], .block []] : List (Delivery String)) =
        ((new .jones).update Variant.checkMessage, .ok 9) ∧
      (new .jones).drain [.block [0x31, 0x32, 0x33], .interrupted, .block [0x34], .interrupted,
          .block [0x35, 0x36, 0x37, 0x38, 0x39], .failure "broken", .block [0x3a]] =
        ((new .jones).update Variant.checkMessage, .error "broken") := by
  have hbefore : ∀ d ∈ ([.block [0x31, 0x32, 0x33], .interrupted, .block [0x34], .interrupted,
      .block [0x35, 0x36, 0x37, 0x38, 0x39]] : List (Delivery String)), d.Continues := by
    simp only [List.forall_mem_cons, List.not_mem_nil, false_implies, implies_true, and_true]
    exact ⟨.block (by decide) (by decide), .interrupted, .block (by decide) (by decide),
      .interrupted, .block (by decide) (by decide)⟩
  have hnew := consistent_new .jones
  obtain ⟨⟨-, hend⟩, hfailure, -⟩ := drain_eq_update hnew hbefore
  exact ⟨hnew, hbefore, hend [], hfailure "broken" [.block [0x3a]]⟩

end Calculator
end CrcTables
