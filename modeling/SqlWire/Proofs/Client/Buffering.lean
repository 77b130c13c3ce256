import SqlWire.Client.Desk
import SqlWire.Client.Script
import SqlWire.Proofs.Client.Recorder

/-!
# How much a connection buffers

A connection receives only where no whole frame is buffered, and then less than the longest frame
is. So one chunk behind an unfinished frame is the most that is ever held, whatever the server sends
and whether or not its rows are fetched. The record of the channel shows how much was held directly
behind each chunk, where it was the most.
-/

namespace SqlWire

theorem Frame.bodySize_le {w : UInt32} {n : Nat} (h : bodySize w = .ok n) : n ≤ maxBody := by
  unfold bodySize at h
  split at h
  · cases h
  · split at h
    · cases h
    · cases h
      omega

/-- Where there is no whole frame, the last byte of the longest frame is missing at least. The
length is looked at before the body is waited for, so a longer one is not waited for. -/
theorem Frame.unfinished_length {buffer : Bytes} (h : next buffer = .ok none) :
    buffer.length ≤ maxBody + 4 := by
  unfold next at h
  split at h
  · next tag a b c d rest =>
      split at h
      · cases h
      · next n hn =>
          split at h
          · cases h
          · next hl =>
              have bounded := bodySize_le hn
              simp only [List.length_cons]
              omega
  · next short =>
      rcases buffer with _ | ⟨a, _ | ⟨b, _ | ⟨c, _ | ⟨d, _ | ⟨e, rest⟩⟩⟩⟩⟩
      · simp
      · simp
      · simp
      · simp
      · simp
      · exact absurd rfl (short a b c d e rest)

/-! ## Chunks -/

namespace Channel

variable {σ : Type} [Channel σ]

inductive Used (s : σ) : σ → Prop
  | send (bytes : Bytes) : Used s (send bytes s).2
  | bound (limit : Option Duration) : Used s (bound limit s).2
  | receive : Used s (receive s).2
  | close : Used s (close s).2
  | now : Used s (now s).2

/-- However the channel is used, no chunk that it delivers has more than `size` bytes. -/
def Portions (size : Nat) (s : σ) : Prop :=
  ∀ t, Relation.ReflTransGen Used s t → ∀ bytes, (receive t).1 = .chunk bytes →
    bytes.length ≤ size

theorem Portions.chunk {size : Nat} {s : σ} (h : Portions size s) {bytes : Bytes}
    (hr : (receive s).1 = .chunk bytes) : bytes.length ≤ size :=
  h s .refl bytes hr

theorem Portions.used {size : Nat} {s t : σ} (h : Portions size s) (hu : Used s t) :
    Portions size t :=
  fun u hs => h u (.head hu hs)

end Channel

namespace Script

/-- Deliveries are only ever taken from the front of the list. -/
theorem used_deliveries {s t : Script} (h : Channel.Used s t) : t.deliveries <:+ s.deliveries := by
  cases h with
  | send bytes =>
      change (s.send bytes).2.deliveries <:+ _
      unfold send
      dsimp only
      split
      · exact List.suffix_rfl
      · exact List.suffix_rfl
  | bound limit =>
      change (s.bound limit).2.deliveries <:+ _
      unfold bound
      dsimp only
      split
      · exact List.suffix_rfl
      · exact List.suffix_rfl
  | receive =>
      change s.receive.2.deliveries <:+ _
      unfold receive
      dsimp only
      split
      · exact List.suffix_rfl
      · next d rest hd =>
          change rest <:+ s.deliveries
          rw [show s.deliveries = d :: rest from hd]
          exact List.suffix_cons d rest
  | close => exact List.suffix_rfl
  | now =>
      change s.now.2.deliveries <:+ _
      unfold now
      split
      · exact List.suffix_rfl
      · exact List.suffix_rfl

theorem receive_chunk {s : Script} {bytes : Bytes} (h : (Channel.receive s).1 = .chunk bytes) :
    .chunk bytes ∈ s.deliveries := by
  change s.receive.1 = _ at h
  unfold receive at h
  dsimp only at h
  split at h
  · cases h
  · next d rest hd =>
      rw [show s.deliveries = d :: rest from hd, ← show d = .chunk bytes from h]
      exact List.mem_cons_self

/-- A channel with a fixed course delivers nothing but what is on its list. -/
theorem portions {size : Nat} {s : Script}
    (h : ∀ bytes, .chunk bytes ∈ s.deliveries → bytes.length ≤ size) :
    Channel.Portions size s := by
  intro t ht bytes hr
  have left : t.deliveries <:+ s.deliveries := by
    clear hr
    induction ht with
    | refl => exact List.suffix_rfl
    | tail _ hu ih => exact (used_deliveries hu).trans ih
  exact h bytes (left.subset (receive_chunk hr))

end Script

/-! ## Records -/

def Entry.isBuffering : Entry → Bool
  | received (.chunk _) | shown (.holds _) => true
  | _ => false

/-- Behind each chunk the record shows how much is held then: all of the chunk, at most what was
held before with it, and never more than `limit`. At its end it is `held`. -/
inductive HeldWithin (limit : Nat) : List Entry → Nat → Prop
  | nothing : HeldWithin limit [] 0
  | chunk {record : List Entry} {held size : Nat} {bytes : Bytes} (h : HeldWithin limit record held)
      (all : bytes.length ≤ size) (before : size ≤ held + bytes.length) (bounded : size ≤ limit) :
      HeldWithin limit (record ++ [.received (.chunk bytes), .shown (.holds size)]) size
  | other {record : List Entry} {held : Nat} {entry : Entry} (h : HeldWithin limit record held)
      (he : entry.isBuffering = false) : HeldWithin limit (record ++ [entry]) held

theorem HeldWithin.le {limit held : Nat} {record : List Entry} (h : HeldWithin limit record held) :
    held ≤ limit := by
  induction h with
  | nothing => exact Nat.zero_le _
  | chunk _ _ _ bounded => exact bounded
  | other _ _ ih => exact ih

namespace Connection

variable {σ : Type} {c d : Connection (Recorder σ)} {limit size : Nat}

/-- The connection holds at most `limit` bytes, and at most what its record shows, in which it was
never more. -/
structure Bounded (limit : Nat) (c : Connection (Recorder σ)) : Prop where
  buffered : c.buffer.length ≤ limit
  shown : ∃ held, HeldWithin limit c.entries held ∧ c.buffer.length ≤ held

theorem bounded_of_shown {held : Nat} (h : HeldWithin limit c.entries held)
    (hb : c.buffer.length ≤ held) : Bounded limit c :=
  ⟨Nat.le_trans hb h.le, held, h, hb⟩

theorem Bounded.told (h : Bounded limit c) {entry : Entry}
    (he : d.entries = c.entries ++ [entry]) (hi : entry.isBuffering = false)
    (hb : d.buffer.length ≤ c.buffer.length) : Bounded limit d := by
  obtain ⟨held, within, hh⟩ := h.shown
  exact bounded_of_shown (he ▸ within.other hi) (Nat.le_trans hb hh)

variable [Channel σ]

structure Holds (size : Nat) (c : Connection (Recorder σ)) : Prop where
  bounded : Bounded (Frame.maxBody + 4 + size) c
  portions : Channel.Portions size c.channel.channel

/-- A chunk is held behind the front of a frame. -/
theorem Holds.received {bytes : Bytes} (h : Holds size c) (hn : Frame.next c.buffer = .ok none)
    (hr : (Channel.receive c.channel).1 = .chunk bytes) :
    Bounded (Frame.maxBody + 4 + size)
      (extend bytes { c with channel := (Channel.receive c.channel).2 }) := by
  obtain ⟨held, within, hh⟩ := h.bounded.shown
  have unfinished := Frame.unfinished_length hn
  have chunk : bytes.length ≤ size := h.portions.chunk hr
  have length : (c.buffer ++ bytes).length = c.buffer.length + bytes.length := List.length_append
  have record : (extend bytes { c with channel := (Channel.receive c.channel).2 }).entries =
      c.entries ++ [.received (.chunk bytes), .shown (.holds (c.buffer ++ bytes).length)] := by
    change (c.entries ++ [.received (Channel.receive c.channel.channel).1]) ++ [_] = _
    rw [show (Channel.receive c.channel.channel).1 = .chunk bytes from hr, List.append_assoc]
    rfl
  have more : HeldWithin (Frame.maxBody + 4 + size)
      (extend bytes { c with channel := (Channel.receive c.channel).2 }).entries
      (c.buffer ++ bytes).length := by
    rw [record]
    exact within.chunk (by omega) (by omega) (by omega)
  exact bounded_of_shown more (Nat.le_refl _)

theorem Holds.use (h : Holds size c) (hu : Use c d) : Holds size d := by
  obtain ⟨hb, hp⟩ := h
  cases hu with
  | sent bytes => exact ⟨hb.told rfl rfl (Nat.le_refl _), hp.used (.send bytes)⟩
  | bounded limit => exact ⟨hb.told rfl rfl (Nat.le_refl _), hp.used (.bound limit)⟩
  | clock => exact ⟨⟨hb.buffered, hb.shown⟩, hp.used .now⟩
  | received _ hn hr => exact ⟨Holds.received ⟨hb, hp⟩ hn hr, hp.used .receive⟩
  | missed _ hr =>
      have silent : (Entry.received (Channel.receive c.channel).1).isBuffering = false := by
        cases hd : (Channel.receive c.channel).1 with
        | chunk bytes => exact absurd hd (hr bytes)
        | closed | failed => rfl
      exact ⟨hb.told rfl silent (Nat.le_refl _), hp.used .receive⟩
  | within hc _ hs =>
      have same : d.entries = c.entries := congrArg Recorder.record hc
      obtain ⟨held, within, hh⟩ := hb.shown
      exact ⟨bounded_of_shown (same ▸ within) (Nat.le_trans hs.length_le hh), hc.symm ▸ hp⟩
  | became status => exact ⟨hb.told rfl rfl (Nat.le_refl _), hp⟩
  | shut =>
      obtain ⟨held, within, -⟩ := hb.shown
      exact ⟨bounded_of_shown ((within.other rfl).other rfl) (Nat.zero_le _), hp.used .close⟩

/-- What a connection may do leaves it within the bound, however often it is done. -/
theorem Holds.uses (h : Holds size c) (hu : Uses c d) : Holds size d := by
  induction hu with
  | refl => exact h
  | tail _ hu ih => exact ih.use hu

/-- Over a channel whose chunks have no more than `size` bytes, a connection never holds more than
the longest frame, but for its last byte, and one chunk: not where the attempt to connect ends, not
behind any operations, not at its end, and not behind any chunk that was received on the way to
these, all of which are in the record. -/
theorem buffer_bounded (options : ConnectOptions) (channel : σ) (operations : List Operation)
    (size : Nat) (portions : Channel.Portions size channel) :
    let made := (connect options (Recorder.untouched channel)).2
    let d := (Desk.performAll { connection := made } operations).2
    (Bounded (Frame.maxBody + 4 + size) made ∧
        Bounded (Frame.maxBody + 4 + size) d.connection ∧
        Bounded (Frame.maxBody + 4 + size) d.leave) ∧
      made.entries <+: d.connection.entries ∧ d.connection.entries <+: d.leave.entries := by
  intro made d
  have making : Uses (fresh options (Recorder.untouched channel)) made := connect_uses options _
  have working : Uses made d.connection :=
    Desk.performAll_keeps (invariant_uses made) (fun _ => trivial) operations
      { connection := made } (fun _ _ => trivial) .refl
  have leaving : Uses d.connection d.leave :=
    Desk.leave_keeps (invariant_uses d.connection) d .refl
  have begins : Holds size (fresh options (Recorder.untouched channel)) :=
    ⟨bounded_of_shown .nothing (Nat.zero_le _), portions⟩
  have held := begins.uses making
  have held' := held.uses working
  exact ⟨⟨held.bounded, held'.bounded, (held'.uses leaving).bounded⟩, working.entries_prefix,
    leaving.entries_prefix⟩

/-- A server that lets the client in, in chunks of at most six bytes, and then answers nothing. -/
theorem buffer_bounded_by_six :
    let channel : Script := { deliveries := [.chunk [82, 0, 0, 0, 8, 0], .chunk [0, 0, 0, 90],
      .chunk [0, 0, 0, 5, 73]] }
    let made := (connect {} (Recorder.untouched channel)).2
    let d := (Desk.performAll { connection := made } [.execute "SELECT 1" [], .close]).2
    Channel.Portions 6 channel ∧
      (Bounded (Frame.maxBody + 4 + 6) made ∧ Bounded (Frame.maxBody + 4 + 6) d.connection ∧
        Bounded (Frame.maxBody + 4 + 6) d.leave) ∧
      made.entries <+: d.connection.entries ∧ d.connection.entries <+: d.leave.entries := by
  intro channel made d
  have portions : Channel.Portions 6 channel := by
    refine Script.portions fun bytes h => ?_
    simp only [channel, List.mem_cons, Delivery.chunk.injEq, List.not_mem_nil, or_false] at h
    rcases h with rfl | rfl | rfl
    · decide
    · decide
    · decide
  exact ⟨portions, buffer_bounded {} channel [.execute "SELECT 1" [], .close] 6 portions⟩

end Connection

end SqlWire
