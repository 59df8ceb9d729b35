import CrcTables.Proofs.Register.Linearity

/-!
# Messages add up

The register is linear in the message as well as in where it starts.  Each byte of a message leaves
in the register what it would leave there alone, with zeros behind it, and the starting value leaves
what it would leave with zeros alone.  The register after the message is the sum of all these, and
a sum of messages of the same length leaves the sum of what each of them leaves.

## What is here

* `Register.contribution` — what the bytes of a message leave in the register together.
* `Register.run_eq_contribution` — the register after a message is this and the share of the
  starting value.
* `Register.run_xor` — so a difference between two registers runs on its own beside the message.
* `Register.run_zipWith_xor` — and the sum of two registers, with the sum of two messages, ends at
  the sum of the two ends.
-/

set_option autoImplicit false
namespace CrcTables
namespace Register

/-! ## Byte by byte -/

/-- What the bytes of a message leave in the register: each of them has run as many rounds as there
are bits from its first one to the end of the message. -/
def contribution (p : UInt64) : List UInt8 → UInt64
  | [] => 0
  | byte :: rest => rounds p (8 * (rest.length + 1)) byte.toUInt64 ^^^ contribution p rest

/-- **Superposition**: the starting value and the bytes of the message run side by side. -/
theorem run_eq_contribution (p r : UInt64) (data : List UInt8) :
    run p r data = rounds p (8 * data.length) r ^^^ contribution p data := by
  induction data generalizing r with
  | nil => exact UInt64.xor_zero.symm
  | cons byte data ih =>
    have hlength : 8 * (data.length + 1) = 8 + 8 * data.length := by omega
    calc run p r (byte :: data)
        = run p (push p r byte) data := rfl
      _ = rounds p (8 * data.length) (rounds p 8 (r ^^^ byte.toUInt64)) ^^^ contribution p data :=
        ih (push p r byte)
      _ = rounds p (8 * (data.length + 1)) (r ^^^ byte.toUInt64) ^^^ contribution p data := by
        rw [hlength, rounds_add]
      _ = rounds p (8 * (data.length + 1)) r ^^^ contribution p (byte :: data) := by
        rw [rounds_xor, contribution, UInt64.xor_assoc]

/-- **A difference runs on its own**: what is added to the register before a message is there after
it, as many rounds older as the message has bits. -/
theorem run_xor (p a b : UInt64) (data : List UInt8) :
    run p (a ^^^ b) data = rounds p (8 * data.length) a ^^^ run p b data := by
  rw [run_eq_contribution, run_eq_contribution, rounds_xor, UInt64.xor_assoc]

/-! ## Sums of messages -/

section Sums

variable {x y : List UInt8} (h : x.length = y.length)

include h

/-- The sum of two messages is as long as each of them. -/
theorem length_zipWith_xor : (List.zipWith (· ^^^ ·) x y).length = x.length := by
  rw [List.length_zipWith, h, Nat.min_self]

/-- A sum of messages leaves the sum of what they leave. -/
theorem contribution_xor (p : UInt64) :
    contribution p (List.zipWith (· ^^^ ·) x y) = contribution p x ^^^ contribution p y := by
  induction x generalizing y with
  | nil =>
    obtain rfl : y = [] := List.eq_nil_of_length_eq_zero h.symm
    exact UInt64.xor_zero.symm
  | cons a x ih =>
    obtain ⟨b, y, rfl⟩ := List.exists_cons_of_length_eq_add_one h.symm
    have htail : x.length = y.length := Nat.succ.inj h
    rw [List.zipWith_cons_cons, contribution, contribution, contribution, ih htail,
      length_zipWith_xor htail, ← htail, UInt8.toUInt64_xor, rounds_xor]
    -- the two heads and the two tails change places
    ac_rfl

/-- **Registers and messages add up together.** -/
theorem run_zipWith_xor (p a b : UInt64) :
    run p (a ^^^ b) (List.zipWith (· ^^^ ·) x y) = run p a x ^^^ run p b y := by
  rw [run_eq_contribution, run_eq_contribution, run_eq_contribution, length_zipWith_xor h, ← h,
    rounds_xor, contribution_xor h]
  -- the shares of the registers and those of the messages change places
  ac_rfl

end Sums

end Register
end CrcTables
