import SqlWire.Client.Channel

/-!
# Channels with a record of what they delivered

`Traced σ` does what a channel does and keeps each delivery, the latest last. What a connection
makes of its server can then be said in terms of the bytes that it was given.
-/

namespace SqlWire

/-- A channel with all that it delivered. -/
structure Traced (σ : Type) where
  channel : σ
  delivered : List Delivery := []

namespace Traced

variable {σ : Type}

def chunks : List Delivery → Bytes
  | [] => []
  | .chunk bytes :: rest => bytes ++ chunks rest
  | _ :: rest => chunks rest

def heard (s : Traced σ) : Bytes :=
  chunks s.delivered

theorem chunks_append (ds es : List Delivery) : chunks (ds ++ es) = chunks ds ++ chunks es := by
  induction ds with
  | nil => rfl
  | cons d ds ih =>
      cases d with
      | chunk bytes => simp only [List.cons_append, chunks, ih, List.append_assoc]
      | closed => exact ih
      | failed f => exact ih

def through (s : Traced σ) (r : α × σ) : α × Traced σ :=
  (r.1, { s with channel := r.2 })

theorem under {r : α × σ} {a : α} {ds : List Delivery} {s' : Traced σ}
    (h : (r.1, Traced.mk r.2 ds) = (a, s')) : r = (a, s'.channel) := by
  cases h
  rfl

instance [Channel σ] : Channel (Traced σ) where
  send bytes s := s.through (Channel.send bytes s.channel)
  bound limit s := s.through (Channel.bound limit s.channel)
  receive s :=
    let r := Channel.receive s.channel
    (r.1, { channel := r.2, delivered := s.delivered ++ [r.1] })
  close s := s.through (Channel.close s.channel)
  now s := s.through (Channel.now s.channel)
  pending s := Channel.pending s.channel
  pending_bound limit s := Channel.pending_bound limit s.channel
  pending_now s := Channel.pending_now s.channel
  pending_receive := by
    intro s s' bytes h
    exact Channel.pending_receive (under h)

section

variable [Channel σ]

theorem delivered_receive (s : Traced σ) :
    (Channel.receive s).2.delivered = s.delivered ++ [(Channel.receive s).1] := rfl

end

end Traced

end SqlWire
