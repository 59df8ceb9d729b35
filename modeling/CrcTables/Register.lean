/-!
# The shift register, one bit at a time

This file says what a reflected CRC-64 register does, without any table.  The register shifts to
the right, and the reflected polynomial is added whenever a set bit falls off the low end.

## What is here

* `Register.shift` — one round.
* `Register.rounds` — any number of rounds.
* `Register.push` — a byte goes in: it is added to the low eight bits, and eight rounds follow.
* `Register.run` — the bytes of a message go in, in order.  The tables of `CrcTables.Table` and
  the engines of `CrcTables.Checksum.Slicing` are faster ways to the same register.
-/

set_option autoImplicit false
namespace CrcTables
namespace Register

/-- One round for the reflected polynomial `p`: the register moves one bit to the right, and `p`
is added if the bit that falls off is set. -/
def shift (p r : UInt64) : UInt64 :=
  if r &&& 1 = 0 then r >>> 1 else p ^^^ (r >>> 1)

/-- The register after a number of rounds. -/
def rounds (p : UInt64) : Nat → UInt64 → UInt64
  | 0, r => r
  | n + 1, r => rounds p n (shift p r)

/-- The register after a byte has gone in. -/
def push (p r : UInt64) (byte : UInt8) : UInt64 :=
  rounds p 8 (r ^^^ byte.toUInt64)

/-- The register after the bytes of a message have gone in, in order. -/
def run (p r : UInt64) (data : List UInt8) : UInt64 :=
  data.foldl (push p) r

/-- Rounds add up. -/
theorem rounds_add (p : UInt64) (m n : Nat) (r : UInt64) :
    rounds p (m + n) r = rounds p n (rounds p m r) := by
  induction m generalizing r with
  | zero => simp [rounds]
  | succ m ih => rw [Nat.succ_add, rounds, rounds, ih]

/-- A message in two parts goes in part by part. -/
theorem run_append (p r : UInt64) (a b : List UInt8) :
    run p r (a ++ b) = run p (run p r a) b :=
  List.foldl_append

end Register
end CrcTables
