import SqlWire.Client.Desk
import SqlWire.Server.Session

/-! # A client joined to a session

The channel of a connection whose peer is a session on the same machine. What the client sends
is taken in by the session at once, and what the session sends back waits to be read. When the
session is over, the client reads the end of the stream. A read that nothing can answer ends
like one that took too long, and no time passes.
-/

namespace SqlWire

structure Loopback where
  session : Session
  /-- What the session was sent and has not taken in. -/
  inbound : Bytes := []
  /-- What the session sent and the client has not read. -/
  outbound : Bytes := []

namespace Loopback

def sentSince (earlier : Nat) (s : Session) : Bytes :=
  (s.sent.take (s.sent.length - earlier)).reverse.flatMap Outgoing.bytes

/-- Hands bytes to the session. A session that is over does not look at them. -/
def send (bytes : Bytes) (l : Loopback) : Option Failure × Loopback :=
  let (session, inbound) := l.session.serve (l.inbound ++ bytes)
  (none, { session, inbound, outbound := l.outbound ++ sentSince l.session.sent.length session })

def isOver (l : Loopback) : Bool :=
  match l.session.stage with
  | .ended _ => true
  | _ => false

def silence : Failure := ⟨.timedOut, "nothing to read"⟩

def receive (l : Loopback) : Delivery × Loopback :=
  if l.outbound.isEmpty then (if l.isOver then .closed else .failed silence, l)
  else (.chunk l.outbound, { l with outbound := [] })

def close (l : Loopback) : Option Failure × Loopback :=
  (none, { l with session := l.session.hangUp })

def weight (l : Loopback) : Nat :=
  if l.outbound.isEmpty then 0 else l.outbound.length + 1

theorem weight_receive {l l' : Loopback} {bytes : Bytes} (h : l.receive = (.chunk bytes, l')) :
    l'.weight + bytes.length < l.weight := by
  unfold receive at h
  split at h
  · split at h <;> cases h
  · next hne =>
    cases h
    simp [weight, hne]

instance : Channel Loopback where
  send := send
  bound _ l := (none, l)
  receive := receive
  close := close
  now l := (0, l)
  pending := weight
  pending_bound _ _ := Nat.le_refl _
  pending_now _ := Nat.le_refl _
  pending_receive := weight_receive

def toSession (session : Session) : Loopback := { session }

end Loopback

end SqlWire
