import SqlWire.Bytes
import SqlWire.Duration

/-! # Channels

What a connection needs of the channel it owns: bytes out, bytes in, a bound on the time that
a read may take, a clock, and an end. A channel has only so much to deliver, and a delivery
uses some of it up.
-/

namespace SqlWire

inductive FailureKind where
  | wouldBlock
  | timedOut
  | connectionReset
  | brokenPipe
  | unexpectedEof
  deriving DecidableEq, Repr

structure Failure where
  kind : FailureKind
  text : String
  deriving DecidableEq, Repr

def Failure.isTimeout (f : Failure) : Bool :=
  f.kind = .wouldBlock || f.kind = .timedOut

inductive Delivery where
  | chunk (bytes : Bytes)
  /-- The peer will send nothing more. -/
  | closed
  | failed (failure : Failure)
  deriving DecidableEq, Repr

/-- A two-way channel of bytes with a clock that counts nanoseconds. `pending` bounds what is
left to be read, counting one for each delivery and one for each byte. -/
class Channel (σ : Type) where
  send : Bytes → σ → Option Failure × σ
  /-- Bounds the time of the next read, or lifts the bound. -/
  bound : Option Duration → σ → Option Failure × σ
  receive : σ → Delivery × σ
  close : σ → Option Failure × σ
  now : σ → Nat × σ
  pending : σ → Nat
  pending_bound : ∀ limit s, pending (bound limit s).2 ≤ pending s
  pending_now : ∀ s, pending (now s).2 ≤ pending s
  pending_receive : ∀ {s s' bytes}, receive s = (.chunk bytes, s') →
    pending s' + bytes.length < pending s

end SqlWire
