import CrcTables.Checksum.Calculator
import CrcTables.Rows

/-!
# Data that arrives in blocks

A reader delivers a message as a sequence of outcomes: blocks of bytes, interruptions, after which
reading is tried again, and at most one failure, which ends it.  The end of the sequence is the
end of the message.

A reader does not hand over blocks.  It writes each one over the start of a buffer and tells how
many bytes it wrote; behind them the buffer still holds what earlier attempts left there.  An
attempt that writes nothing is the end of the message.

## What is here

* `Delivery` — the outcome of one attempt to read.
* `Delivery.collect` — the whole message, or the failure that ended it.
* `Delivery.ofBytes` — a message in blocks of the usual size.
* `Buffer`, `Buffer.write` — the buffer, and a block that is written to it.
* `Calculator.drain` — a calculator takes in what a reader leaves in a buffer, up to an attempt that
  writes nothing or fails.
* `Calculator.absorb` — the same from blocks that are handed over.
-/

set_option autoImplicit false
namespace CrcTables

/-- The outcome of one attempt to read, with failures of type `ε`. -/
inductive Delivery (ε : Type) where
  /-- These bytes came. -/
  | block (bytes : List UInt8)
  /-- The attempt was interrupted and is made again. -/
  | interrupted
  /-- Reading failed for good. -/
  | failure (reason : ε)

namespace Delivery

/-- The largest block that is asked for. -/
def blockSize : Nat := 65536

/-- The message that was delivered, or the failure that ended it. -/
def collect {ε : Type} : List (Delivery ε) → Except ε (List UInt8)
  | [] => .ok []
  | block bytes :: rest =>
    match collect rest with
    | .ok more => .ok (bytes ++ more)
    | .error e => .error e
  | interrupted :: rest => collect rest
  | failure e :: _ => .error e

/-- A message in blocks of the usual size, the last of which may be shorter. -/
def ofBytes {ε : Type} (bytes : List UInt8) : List (Delivery ε) :=
  (rows blockSize bytes).map block

end Delivery

/-- The bytes that one attempt can fill. -/
abbrev Buffer := Vector UInt8 Delivery.blockSize

namespace Buffer

/-- The buffer before the first attempt. -/
def fresh : Buffer := Vector.replicate Delivery.blockSize 0

/-- The buffer after some bytes were written over its start; bytes behind them stay. -/
def write (buffer : Buffer) (bytes : List UInt8) : Buffer :=
  buffer.mapIdx fun i old ↦ bytes[i]?.getD old

end Buffer

namespace Calculator

/-- The loop, with `count` bytes taken in so far.  What an attempt brings is written to the buffer
first, and then as many bytes are taken from the buffer as were announced. -/
def drainFrom {ε : Type} (c : Calculator) (buffer : Buffer) (count : Nat) :
    List (Delivery ε) → Calculator × Except ε Nat
  | [] => (c, .ok count)
  | .block bytes :: rest =>
    if bytes = [] then (c, .ok count)
    else
      drainFrom (c.update ((buffer.write bytes).toList.take bytes.length)) (buffer.write bytes)
        (count + bytes.length) rest
  | .interrupted :: rest => c.drainFrom buffer count rest
  | .failure e :: _ => (c, .error e)

/-- A calculator takes in what a reader delivers through a buffer, and counts the bytes. -/
def drain {ε : Type} (c : Calculator) (deliveries : List (Delivery ε)) :
    Calculator × Except ε Nat :=
  c.drainFrom .fresh 0 deliveries

/-- The calculator after the blocks that came, with the number of their bytes added to `count`, or
with the failure that ended the message. -/
def absorbFrom {ε : Type} (c : Calculator) (count : Nat) :
    List (Delivery ε) → Calculator × Except ε Nat
  | [] => (c, .ok count)
  | .block bytes :: rest => absorbFrom (c.update bytes) (count + bytes.length) rest
  | .interrupted :: rest => absorbFrom c count rest
  | .failure e :: _ => (c, .error e)

/-- The calculator after the blocks that came, with the number of their bytes or with the failure
that ended the message. -/
def absorb {ε : Type} (c : Calculator) (deliveries : List (Delivery ε)) :
    Calculator × Except ε Nat :=
  c.absorbFrom 0 deliveries

end Calculator
end CrcTables
