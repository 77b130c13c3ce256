import SqlWire.Loopback
import SqlWire.Proofs.Client.Traced
import SqlWire.Proofs.Server.Admission
import SqlWire.Proofs.Server.Batches

/-!
# Channels to a session

A channel is joined to a session if what is sent through it is what the session takes in and
what is read from it is what the session sent, in chunks of any size. Such a channel may still
fail at any time; a faithful one never does.
-/

namespace SqlWire

/-- A channel to a session. The session, what it has not taken in and what was not read yet are
its `loop`. -/
class Joined (σ : Type) extends Channel σ where
  loop : σ → Loopback
  loop_send : ∀ {bytes s s'}, send bytes s = (none, s') → loop s' = (Loopback.send bytes (loop s)).2
  loop_bound : ∀ limit s, loop (bound limit s).2 = loop s
  loop_now : ∀ s, loop (now s).2 = loop s
  session_chunk : ∀ {bytes s s'}, receive s = (.chunk bytes, s') →
    (loop s').session = (loop s).session ∧ (loop s').inbound = (loop s).inbound
  outbound_chunk : ∀ {bytes s s'}, receive s = (.chunk bytes, s') →
    (loop s).outbound = bytes ++ (loop s').outbound
  loop_closed : ∀ {s s'}, receive s = (.closed, s') → loop s' = loop s

/-- A channel that loses nothing and keeps nobody waiting: it ends when everything was read and
the session is over, and reading fails only when there is nothing to read and never will be. -/
class Faithful (σ : Type) extends Joined σ where
  instant : Nat
  send_none : ∀ bytes s, (send bytes s).1 = none
  bound_none : ∀ limit s, (bound limit s).1 = none
  now_eq : ∀ s, (now s).1 = instant
  receive_failed : ∀ {s f}, (receive s).1 = .failed f →
    (loop s).outbound = [] ∧ (loop s).isOver = false
  receive_closed : ∀ {s}, (receive s).1 = .closed →
    (loop s).outbound = [] ∧ (loop s).isOver = true

namespace Loopback

theorem receive_chunk {l l' : Loopback} {bytes : Bytes} (h : l.receive = (.chunk bytes, l')) :
    l.outbound = bytes ∧ l' = { l with outbound := [] } := by
  unfold receive at h
  split at h
  · split at h <;> cases h
  · cases h
    exact ⟨rfl, rfl⟩

theorem receive_closed {l l' : Loopback} (h : l.receive = (.closed, l')) :
    l.outbound = [] ∧ l.isOver = true ∧ l' = l := by
  unfold receive at h
  split at h
  · next ho =>
      split at h
      · next hl =>
          cases h
          exact ⟨List.isEmpty_iff.1 ho, hl, rfl⟩
      · cases h
  · cases h

theorem receive_failed {l l' : Loopback} {f : Failure} (h : l.receive = (.failed f, l')) :
    l.outbound = [] ∧ l.isOver = false := by
  unfold receive at h
  split at h
  · next ho =>
      split at h
      · cases h
      · next hl =>
          cases h
          exact ⟨List.isEmpty_iff.1 ho, by simpa using hl⟩
  · cases h

theorem isOver_iff (l : Loopback) : l.isOver = true ↔ l.session.Over := by
  unfold isOver Session.Over
  cases l.session.stage <;> simp

instance : Faithful Loopback where
  loop := id
  loop_send h := (congrArg Prod.snd h).symm
  loop_bound _ _ := rfl
  loop_now _ := rfl
  session_chunk h := by
    obtain ⟨-, rfl⟩ := receive_chunk h
    exact ⟨rfl, rfl⟩
  outbound_chunk h := by
    obtain ⟨ho, rfl⟩ := receive_chunk h
    rw [id, ho, id, List.append_nil]
  loop_closed h := (receive_closed h).2.2
  instant := 0
  send_none _ _ := rfl
  bound_none _ _ := rfl
  now_eq _ := rfl
  receive_failed h := receive_failed (Prod.ext h rfl)
  receive_closed h := ⟨(receive_closed (Prod.ext h rfl)).1, (receive_closed (Prod.ext h rfl)).2.1⟩

end Loopback

namespace Traced

variable {σ : Type}

instance [Joined σ] : Joined (Traced σ) where
  loop s := Joined.loop s.channel
  loop_send h := Joined.loop_send (under h)
  loop_bound limit s := Joined.loop_bound limit s.channel
  loop_now s := Joined.loop_now s.channel
  session_chunk h := Joined.session_chunk (under h)
  outbound_chunk h := Joined.outbound_chunk (under h)
  loop_closed h := Joined.loop_closed (under h)

instance [Faithful σ] : Faithful (Traced σ) where
  instant := Faithful.instant σ
  send_none bytes s := Faithful.send_none bytes s.channel
  bound_none limit s := Faithful.bound_none limit s.channel
  now_eq s := Faithful.now_eq s.channel
  receive_failed h := Faithful.receive_failed h
  receive_closed h := Faithful.receive_closed h

end Traced

end SqlWire
