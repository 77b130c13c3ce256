import SqlWire.Proofs.Client.Uses

/-!
# Channels with a record of their connection

`Recorder σ` does what a channel does. It keeps a record of its calls and, in between, of what it
is shown of its connection. So what a connection comes to in the middle of an operation can be read
off the record at its end.
-/

namespace SqlWire

inductive Entry where
  | sent (bytes : Bytes)
  | bounded (limit : Option Duration)
  | received (delivery : Delivery)
  | closed
  | shown (sign : Sign)
  deriving DecidableEq, Repr

structure Recorder (σ : Type) where
  channel : σ
  record : List Entry := []

namespace Recorder

variable {σ α : Type}

def untouched (channel : σ) : Recorder σ := { channel }

def noting (s : Recorder σ) (entry : Entry) (r : α × σ) : α × Recorder σ :=
  (r.1, { channel := r.2, record := s.record ++ [entry] })

theorem behind {s s' : Recorder σ} {entry : Entry} {r : α × σ} {a : α}
    (h : s.noting entry r = (a, s')) : r = (a, s'.channel) := by
  cases h
  rfl

instance [Channel σ] : Channel (Recorder σ) where
  send bytes s := s.noting (.sent bytes) (Channel.send bytes s.channel)
  bound limit s := s.noting (.bounded limit) (Channel.bound limit s.channel)
  receive s := s.noting (.received (Channel.receive s.channel).1) (Channel.receive s.channel)
  close s := s.noting .closed (Channel.close s.channel)
  now s :=
    let r := Channel.now s.channel
    (r.1, { s with channel := r.2 })
  pending s := Channel.pending s.channel
  pending_bound limit s := Channel.pending_bound limit s.channel
  pending_now s := Channel.pending_now s.channel
  pending_receive := by
    intro s s' bytes h
    exact Channel.pending_receive (behind h)

instance [Channel σ] : Watched (Recorder σ) where
  watch sign s := { s with record := s.record ++ [.shown sign] }
  pending_watch _ _ := Nat.le_refl _

def latest (says? : Entry → Option α) (record : List Entry) (start : α) : α :=
  (record.filterMap says?).getLast?.getD start

theorem latest_snoc (says? : Entry → Option α) (record : List Entry) (start : α) (entry : Entry) :
    latest says? (record ++ [entry]) start = (says? entry).getD (latest says? record start) := by
  unfold latest
  cases h : says? entry <;> simp [h]

theorem latest_mem {says? : Entry → Option α} {record : List Entry} {start a : α}
    (h : latest says? record start = a) : a = start ∨ ∃ entry ∈ record, says? entry = some a := by
  unfold latest at h
  cases hl : (record.filterMap says?).getLast? with
  | none =>
      rw [hl] at h
      exact .inl h.symm
  | some b =>
      rw [hl] at h
      cases h
      exact .inr (List.mem_filterMap.1 (List.mem_of_getLast? hl))

end Recorder

namespace Connection

variable {σ : Type} {c d : Connection (Recorder σ)}

def entries (c : Connection (Recorder σ)) : List Entry :=
  c.channel.record

variable [Channel σ]

/-- Nothing is ever taken out of the record. -/
theorem Use.entries_prefix (h : Use c d) : c.entries <+: d.entries := by
  cases h with
  | sent | bounded | missed | became => exact List.prefix_append _ _
  | received => exact (List.prefix_append _ _).trans (List.prefix_append _ _)
  | clock => exact List.prefix_rfl
  | within hc =>
      have same : d.entries = c.entries := congrArg Recorder.record hc
      exact same ▸ List.prefix_rfl
  | shut => exact (List.prefix_append _ _).trans (List.prefix_append _ _)

theorem Uses.entries_prefix (h : Uses c d) : c.entries <+: d.entries := by
  induction h with
  | refl => exact List.prefix_rfl
  | tail _ hu ih => exact ih.trans hu.entries_prefix

end Connection

end SqlWire
