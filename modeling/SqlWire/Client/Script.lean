import SqlWire.Client.Channel

/-! # Scripted channels

A channel that delivers a given list and then nothing more, whose calls fail where it is told
to, whose clock moves by given steps, and which keeps a record of what is done to it.
-/

namespace SqlWire

inductive ChannelEvent where
  | sent (bytes : Bytes)
  /-- A read, and the bound that held for it. -/
  | received (limit : Option Duration)
  | closed
  deriving DecidableEq, Repr

structure Script where
  deliveries : List Delivery
  /-- How the send of this number fails, counted from one. -/
  sendFailure : Nat → Option Failure := fun _ => none
  /-- How the setting of a bound of this number fails, counted from one. -/
  boundFailure : Nat → Option Failure := fun _ => none
  closeFailure : Option Failure := none
  /-- By how much the clock moves from one reading to the next; it stands still when no steps
  are left. -/
  steps : List Nat := []
  time : Nat := 0
  sends : Nat := 0
  bounds : Nat := 0
  limit : Option Duration := none
  /-- What was done, newest first. -/
  events : List ChannelEvent := []

namespace Script

/-- What is left to be read, counting one for each delivery and one for each byte. -/
def weight : List Delivery → Nat
  | [] => 0
  | .chunk bytes :: rest => bytes.length + 1 + weight rest
  | _ :: rest => 1 + weight rest

def note (s : Script) (e : ChannelEvent) : Script :=
  { s with events := e :: s.events }

def send (bytes : Bytes) (s : Script) : Option Failure × Script :=
  let s := { s with sends := s.sends + 1 }
  match s.sendFailure s.sends with
  | some f => (some f, s)
  | none => (none, s.note (.sent bytes))

def bound (limit : Option Duration) (s : Script) : Option Failure × Script :=
  let s := { s with bounds := s.bounds + 1 }
  match s.boundFailure s.bounds with
  | some f => (some f, s)
  | none => (none, { s with limit })

def receive (s : Script) : Delivery × Script :=
  let s := s.note (.received s.limit)
  match s.deliveries with
  | [] => (.closed, s)
  | d :: rest => (d, { s with deliveries := rest })

def close (s : Script) : Option Failure × Script :=
  (s.closeFailure, s.note .closed)

def now (s : Script) : Nat × Script :=
  match s.steps with
  | [] => (s.time, s)
  | step :: rest => (s.time + step, { s with time := s.time + step, steps := rest })

theorem weight_bound (limit : Option Duration) (s : Script) :
    weight (bound limit s).2.deliveries = weight s.deliveries := by
  unfold bound
  dsimp only
  split <;> rfl

theorem weight_now (s : Script) : weight s.now.2.deliveries = weight s.deliveries := by
  unfold now
  split <;> rfl

theorem weight_receive {s s' : Script} {bytes : Bytes} (h : s.receive = (.chunk bytes, s')) :
    weight s'.deliveries + bytes.length < weight s.deliveries := by
  unfold receive at h
  dsimp only at h
  split at h
  · simp at h
  · next heq =>
    simp only [Prod.mk.injEq] at h
    obtain ⟨rfl, rfl⟩ := h
    simp only [note] at heq
    simp only [heq, weight]
    omega

instance : Channel Script where
  send := send
  bound := bound
  receive := receive
  close := close
  now := now
  pending s := weight s.deliveries
  pending_bound limit s := Nat.le_of_eq (weight_bound limit s)
  pending_now s := Nat.le_of_eq (weight_now s)
  pending_receive := weight_receive

end Script

end SqlWire
