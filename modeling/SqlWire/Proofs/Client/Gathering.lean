import SqlWire.Proofs.Client.Coupling
import SqlWire.Proofs.Client.Exchanges
import SqlWire.Proofs.Wire.Stream

/-!
# Reading from chunks

What a connection reads next depends on the bytes that are still to come, and on what comes after
the last of them, but not on the chunks that they come in.
-/

namespace SqlWire

namespace Script

/-- The script delivers these chunks, and then it ends with `last`. No bound fails. -/
structure Delivers (chunks : List Bytes) (last : Delivery) (s : Script) : Prop where
  deliveries : ∃ tail, s.deliveries = chunks.map .chunk ++ tail ∧ tail.headD .closed = last
  bounds : ∀ n, s.boundFailure n = none

structure SameSending (s s' : Script) : Prop where
  failure : s'.sendFailure = s.sendFailure
  sends : s'.sends = s.sends
  sent : s'.sent = s.sent

section

variable {s s' s'' : Script} {chunks : List Bytes} {bytes : Bytes} {last : Delivery}

theorem SameSending.refl (s : Script) : SameSending s s := ⟨rfl, rfl, rfl⟩

theorem SameSending.trans (h : SameSending s s') (h' : SameSending s' s'') :
    SameSending s s'' :=
  ⟨h'.failure.trans h.failure, h'.sends.trans h.sends, h'.sent.trans h.sent⟩

theorem SameSending.symm (h : SameSending s s') : SameSending s' s :=
  ⟨h.failure.symm, h.sends.symm, h.sent.symm⟩

theorem SameSending.across {t t' : Script} (h : SameSending s s') (ht : SameSending s t)
    (ht' : SameSending s' t') : SameSending t t' :=
  (ht.symm.trans h).trans ht'

/-- A script that has nothing but its end to deliver has no chunks left. -/
theorem Delivers.eq_nil (h : s.Delivers chunks last) (h' : s.Delivers [] last)
    (hlast : ∀ bytes, last ≠ .chunk bytes) : chunks = [] := by
  obtain ⟨tail, hd, -⟩ := h.deliveries
  obtain ⟨tail', hd', hl⟩ := h'.deliveries
  cases chunks with
  | nil => rfl
  | cons bytes chunks =>
      rw [hd] at hd'
      have hh : tail'.headD .closed = .chunk bytes := by
        rw [← List.nil_append tail', ← List.map_nil, ← hd']
        rfl
      exact absurd (hl.symm.trans hh) (hlast bytes)

theorem Delivers.bound (h : s.Delivers chunks last) (limit : Option Duration) :
    ∃ s', Script.bound limit s = (none, s') ∧ s'.Delivers chunks last ∧ SameSending s s' := by
  refine ⟨{ s with bounds := s.bounds + 1, limit }, ?_, ⟨h.deliveries, h.bounds⟩, rfl, rfl, rfl⟩
  unfold Script.bound
  dsimp only
  rw [h.bounds]

theorem Delivers.now (h : s.Delivers chunks last) :
    s.now.2.Delivers chunks last ∧ SameSending s s.now.2 ∧ s.now.2.time = s.now.1 := by
  unfold Script.now
  split
  · exact ⟨h, .refl s, rfl⟩
  · exact ⟨⟨h.deliveries, h.bounds⟩, ⟨rfl, rfl, rfl⟩, rfl⟩

theorem sameSending_received (s : Script) (limit : Option Duration) (ds : List Delivery) :
    SameSending s { s.note (.received limit) with deliveries := ds } :=
  ⟨rfl, rfl, s.sent_note_received limit⟩

theorem Delivers.receive_chunk (h : s.Delivers (bytes :: chunks) last) :
    ∃ s', Script.receive s = (.chunk bytes, s') ∧ s'.Delivers chunks last ∧ SameSending s s' := by
  obtain ⟨tail, hd, hl⟩ := h.deliveries
  refine ⟨{ s.note (.received s.limit) with deliveries := chunks.map .chunk ++ tail }, ?_,
    ⟨⟨tail, rfl, hl⟩, h.bounds⟩, sameSending_received s _ _⟩
  have hn : (s.note (.received s.limit)).deliveries = .chunk bytes :: (chunks.map .chunk ++ tail) :=
    hd
  unfold Script.receive
  dsimp only
  rw [hn]

theorem Delivers.receive_last (h : s.Delivers [] last) :
    ∃ s', Script.receive s = (last, s') ∧ SameSending s s' := by
  obtain ⟨tail, hd, hl⟩ := h.deliveries
  have hn : (s.note (.received s.limit)).deliveries = tail := hd
  unfold Script.receive
  dsimp only
  rw [hn]
  cases tail with
  | nil =>
      cases hl
      exact ⟨_, rfl, sameSending_received s _ s.deliveries⟩
  | cons d rest =>
      cases hl
      exact ⟨_, rfl, sameSending_received s _ rest⟩

end

end Script

namespace Connection

structure Late (limit : Option Nat) (c : Connection Script) : Prop where
  unusable : c.isUsable = false
  reached : ∃ instant, limit = some instant ∧ instant ≤ c.channel.time

def Unread (last : Delivery) (bytes : Bytes) (c : Connection Script) : Prop :=
  ∃ chunks, c.channel.Delivers chunks last ∧ c.buffer ++ chunks.flatten = bytes

def endError (allowed : Option Duration) : Delivery → ClientError
  | .failed f => if f.isTimeout then .timeout (allowed.getD ⟨0⟩) else .io f.text
  | _ => .endOfStream

def instant? (c : Connection σ) : Option Nat :=
  c.deadline.map Deadline.instant

section

variable {c d : Connection Script} {chunks : List Bytes} {bytes w : Bytes} {last : Delivery}

theorem takeDelivery_chunk (h : c.channel.Delivers (bytes :: chunks) last)
    (limit : Option Duration) :
    ∃ s, takeDelivery limit c = (.ok (), { c with channel := s, buffer := c.buffer ++ bytes }) ∧
      s.Delivers chunks last ∧ Script.SameSending c.channel s := by
  obtain ⟨s, hb, hs, hk⟩ := h.bound limit
  obtain ⟨s', hr, hs', hk'⟩ := hs.receive_chunk
  refine ⟨s', ?_, hs', hk.trans hk'⟩
  have hb : Channel.bound limit c.channel = (none, s) := hb
  have hr : Channel.receive s = (.chunk bytes, s') := hr
  unfold takeDelivery
  rw [hb]
  dsimp only
  rw [hr]
  rfl

theorem takeDelivery_last (h : c.channel.Delivers [] last) (hlast : ∀ bytes, last ≠ .chunk bytes)
    (limit : Option Duration) :
    ∃ s, takeDelivery limit c = (.error (endError (c.deadline.map Deadline.allowed) last),
      { c with channel := s }.markBroken) ∧ Script.SameSending c.channel s := by
  obtain ⟨s, hb, hs, hk⟩ := h.bound limit
  obtain ⟨s', hr, hk'⟩ := hs.receive_last
  refine ⟨s', ?_, hk.trans hk'⟩
  have hb : Channel.bound limit c.channel = (none, s) := hb
  have hr : Channel.receive s = (last, s') := hr
  unfold takeDelivery
  rw [hb]
  dsimp only
  rw [hr]
  cases last with
  | chunk bytes => exact absurd rfl (hlast bytes)
  | closed => rfl
  | failed f => rfl

/-- A connection reads from its channel with a bound for the read, unless it is late. -/
theorem fill_waits (h : c.channel.Delivers chunks last) :
    (∃ limit s, fill c = takeDelivery limit { c with channel := s } ∧ s.Delivers chunks last ∧
      Script.SameSending c.channel s) ∨
    ∃ e d, fill c = (.error e, d) ∧ Late c.instant? d := by
  rcases Option.eq_none_or_eq_some c.deadline with hd | ⟨limit, hd⟩
  · exact .inl ⟨none, c.channel, fill_unlimited hd, h, .refl _⟩
  · obtain ⟨hn, hk, ht⟩ := h.now
    rw [fill_limited hd]
    by_cases hl : limit.instant ≤ (Channel.now c.channel).1
    · rw [if_pos hl]
      refine .inr ⟨_, _, rfl, markBroken_unusable _, limit.instant, ?_, ?_⟩
      · unfold instant?
        rw [hd]
        rfl
      · rw [markBroken_channel]
        exact Nat.le_trans hl (Nat.le_of_eq ht.symm)
    · rw [if_neg hl]
      exact .inl ⟨some ⟨limit.instant - (Channel.now c.channel).1⟩, _, rfl, hn, hk⟩

/-- A connection that waits for a chunk is given it, unless it is late. -/
theorem fill_chunk (h : c.channel.Delivers (bytes :: chunks) last) :
    (∃ s, fill c = (.ok (), { c with channel := s, buffer := c.buffer ++ bytes }) ∧
      s.Delivers chunks last ∧ Script.SameSending c.channel s) ∨
    ∃ e d, fill c = (.error e, d) ∧ Late c.instant? d := by
  rcases fill_waits h with ⟨limit, s, hf, hs, hk⟩ | late
  · obtain ⟨t, htake, ht, hk'⟩ := takeDelivery_chunk (c := { c with channel := s }) hs limit
    exact .inl ⟨t, hf.trans htake, ht, hk.trans hk'⟩
  · exact .inr late

/-- A connection that waits for more than there is fails, unless it is late. -/
theorem fill_last (h : c.channel.Delivers [] last) (hlast : ∀ bytes, last ≠ .chunk bytes) :
    (∃ s, fill c = (.error (endError (c.deadline.map Deadline.allowed) last),
      { c with channel := s }.markBroken) ∧ Script.SameSending c.channel s) ∨
    ∃ e d, fill c = (.error e, d) ∧ Late c.instant? d := by
  rcases fill_waits h with ⟨limit, s, hf, hs, hk⟩ | late
  · obtain ⟨t, htake, hk'⟩ := takeDelivery_last (c := { c with channel := s }) hs hlast limit
    exact .inl ⟨t, hf.trans htake, hk.trans hk'⟩
  · exact .inr late

end

/-! ## Messages -/

section

variable {σ : Type} [Channel σ] {c d : Connection σ} {e : ClientError}

theorem receive_malformed {e : WireError} (h : Frame.next c.buffer = .error e) :
    receive c = breakWith (.ofWire e) c := by
  rw [receive]
  split
  · next h' => rw [h] at h'; cases h'; rfl
  · next h' => rw [h] at h'; cases h'
  · next h' => rw [h] at h'; cases h'

theorem receive_filled (h : Frame.next c.buffer = .ok none) (hf : fill c = (.ok (), d)) :
    receive c = receive d := by
  rw [receive]
  split
  · next h' => rw [h] at h'; cases h'
  · split
    · next hf' => rw [hf] at hf'; cases hf'
    · next hf' => rw [hf] at hf'; cases hf'; rfl
  · next h' => rw [h] at h'; cases h'

theorem receive_starved (h : Frame.next c.buffer = .ok none) (hf : fill c = (.error e, d)) :
    receive c = (.error e, d) := by
  rw [receive]
  split
  · next h' => rw [h] at h'; cases h'
  · split
    · next hf' => rw [hf] at hf'; cases hf'; rfl
    · next hf' => rw [hf] at hf'; cases hf'
  · next h' => rw [h] at h'; cases h'

theorem receive_frame {frame : Frame} {rest : Bytes}
    (h : Frame.next c.buffer = .ok (some (frame, rest))) :
    receive c = match BackendMessage.decode frame with
      | .error e => breakWith (.ofWire e) { c with buffer := rest }
      | .ok (.parameterStatus name value) =>
        receive { c with buffer := rest, parameters := (name, value) :: c.parameters }
      | .ok (.noticeResponse _) => receive { c with buffer := rest }
      | .ok m => (.ok m, { c with buffer := rest }) := by
  rw [receive]
  split
  · next h' => rw [h] at h'; cases h'
  · next h' => rw [h] at h'; cases h'
  · next h' =>
      rw [h] at h'
      cases h'
      rfl

/-- An aside is passed over. -/
theorem receive_aside {frame : Frame} {rest : Bytes} {m : BackendMessage}
    (hn : Frame.next c.buffer = .ok (some (frame, rest)))
    (hm : BackendMessage.decode frame = .ok m) (ha : m.isAside = true) :
    ∃ parameters, receive c = receive { c with buffer := rest, parameters } := by
  rw [receive_frame hn, hm]
  cases m with
  | parameterStatus name value => exact ⟨_, rfl⟩
  | noticeResponse report => exact ⟨c.parameters, rfl⟩
  | _ => cases ha

theorem receive_message {frame : Frame} {rest : Bytes} {m : BackendMessage}
    (hn : Frame.next c.buffer = .ok (some (frame, rest)))
    (hm : BackendMessage.decode frame = .ok m) (ha : m.isAside = false) :
    receive c = (.ok m, { c with buffer := rest }) := by
  rw [receive_frame hn, hm]
  cases m with
  | parameterStatus | noticeResponse => cases ha
  | _ => rfl

end

section

variable {c d : Connection Script} {chunks : List Bytes} {w : Bytes} {last : Delivery}

/-- The connection came here by reading chunks, which leaves open what it reads next. -/
structure Gathered (c d : Connection Script) : Prop where
  frame : d = { c with channel := d.channel, buffer := d.buffer }
  sending : Script.SameSending c.channel d.channel
  receive : receive c = receive d

/-- The connection has what it needs: a whole frame, or all there is. -/
def Ripe (last : Delivery) (c : Connection Script) : Prop :=
  Frame.next c.buffer = .ok none → c.channel.Delivers [] last

theorem Gathered.refl (c : Connection Script) : Gathered c c := ⟨rfl, .refl _, rfl⟩

theorem Gathered.behind {s : Script} {buffer : Bytes}
    (h : Gathered { c with channel := s, buffer } d) (hk : Script.SameSending c.channel s)
    (hr : c.receive = Connection.receive { c with channel := s, buffer }) : Gathered c d :=
  ⟨h.frame, hk.trans h.sending, hr.trans h.receive⟩

/-- Chunks are read until the connection is ripe, unless it is late. -/
theorem ripen (hc : c.channel.Delivers chunks last) :
    (∃ d, Gathered c d ∧ Ripe last d ∧ Unread last (c.buffer ++ chunks.flatten) d) ∨
      ∃ e d, receive c = (.error e, d) ∧ Late c.instant? d := by
  -- A chunk may be empty, so it is the chunks that are counted and not the bytes.
  induction chunks generalizing c with
  | nil => exact .inl ⟨c, .refl c, fun _ => hc, [], hc, rfl⟩
  | cons bytes chunks ih =>
      by_cases hn : Frame.next c.buffer = .ok none
      · rcases fill_chunk hc with ⟨s, hf, hs, hk⟩ | ⟨e, d, hf, hl⟩
        · have hr := receive_filled hn hf
          rw [hr]
          rcases ih (c := { c with channel := s, buffer := c.buffer ++ bytes }) hs with
            ⟨d, hd, hripe, hu⟩ | hl
          · refine .inl ⟨d, hd.behind hk hr, hripe, ?_⟩
            rw [List.flatten_cons, ← List.append_assoc]
            exact hu
          · exact .inr hl
        · exact .inr ⟨e, d, receive_starved hn hf, hl⟩
      · exact .inl ⟨c, .refl c, fun h => absurd h hn, _, hc, rfl⟩

theorem Gathered.isUsable (h : Gathered c d) : d.isUsable = c.isUsable := by
  rw [h.frame]
  rfl

/-- What a ripe connection finds at the front of its buffer is what stands at the front of all that
is still to be read. -/
theorem Ripe.next (h : Ripe last c) (hu : Unread last w c)
    (hlast : ∀ bytes, last ≠ .chunk bytes) :
    match Frame.next w with
    | .error e => Frame.next c.buffer = .error e
    | .ok none => Frame.next c.buffer = .ok none ∧ c.channel.Delivers [] last
    | .ok (some (frame, rest)) => ∃ tail, Frame.next c.buffer = .ok (some (frame, tail)) ∧
        Unread last rest { c with buffer := tail } := by
  obtain ⟨chunks, hd, hw⟩ := hu
  cases hn : Frame.next c.buffer with
  | error e =>
      rw [← hw, Frame.next_error_append hn]
  | ok found =>
      cases found with
      | none =>
          have hnil := hd.eq_nil (h hn) hlast
          subst hnil
          rw [List.flatten_nil, List.append_nil] at hw
          rw [← hw, hn]
          exact ⟨rfl, hd⟩
      | some found =>
          obtain ⟨frame, tail⟩ := found
          rw [← hw, Frame.next_append hn]
          exact ⟨tail, rfl, chunks, hd, rfl⟩

/-- Two connections that are the same to see from outside, sent the same and have the same bytes
still to read, with time limits of their own. -/
structure Twin (last : Delivery) (limit limit' : Option Nat) (c c' : Connection Script) : Prop where
  face : SameFace c c'
  parameters : c'.parameters = c.parameters
  sending : Script.SameSending c.channel c'.channel
  allowed : c'.deadline.map Deadline.allowed = c.deadline.map Deadline.allowed
  limit : c.instant? = limit
  limit' : c'.instant? = limit'
  untimed : c.statementTimeout = none
  unread : c.isUsable = true → ∃ w, Unread last w c ∧ Unread last w c'

section

variable {limit limit' : Option Nat} {c' d' : Connection Script}

theorem Twin.markBroken (h : Twin last limit limit' c c') :
    Twin last limit limit' c.markBroken c'.markBroken := by
  have same (c : Connection Script) : c.markBroken.parameters = c.parameters ∧
      c.markBroken.deadline = c.deadline ∧
      c.markBroken.statementTimeout = c.statementTimeout := by
    unfold Connection.markBroken
    split <;> exact ⟨rfl, rfl, rfl⟩
  have limits (c : Connection Script) : c.markBroken.instant? = c.instant? := by
    unfold instant?
    rw [(same c).2.1]
  refine ⟨h.face.markBroken, ?_, ?_, ?_, (limits c).trans h.limit, (limits c').trans h.limit',
    (same c).2.2.trans h.untimed, ?_⟩
  · rw [(same c).1, (same c').1]
    exact h.parameters
  · rw [markBroken_channel, markBroken_channel]
    exact h.sending
  · rw [(same c).2.1, (same c').2.1]
    exact h.allowed
  · intro hu
    rw [markBroken_unusable] at hu
    cases hu

/-- The channels went on, and both connections still have the same to read. -/
theorem Twin.moved (h : Twin last limit limit' c c')
    (hd : d = { c with channel := d.channel, buffer := d.buffer, parameters := d.parameters })
    (hd' : d' = { c' with channel := d'.channel, buffer := d'.buffer, parameters := d'.parameters })
    (hp : d'.parameters = d.parameters) (hs : Script.SameSending d.channel d'.channel)
    (hu : d.isUsable = true → ∃ w, Unread last w d ∧ Unread last w d') :
    Twin last limit limit' d d' := by
  have face := h.face
  refine ⟨?_, hp, hs, ?_, ?_, ?_, ?_, hu⟩
  · rw [hd, hd']
    exact { face with }
  · rw [hd, hd']
    exact h.allowed
  · rw [hd]
    exact h.limit
  · rw [hd']
    exact h.limit'
  · rw [hd]
    exact h.untimed

/-- What a connection that is given up holds is dropped, so it does not matter. -/
theorem markBroken_moved {σ : Type} [Channel σ] {c : Connection σ} (s : σ) (buffer : Bytes)
    (hu : c.isUsable = true) :
    { c with channel := s, buffer }.markBroken = { c.markBroken with channel := s } := by
  have hu' : Connection.isUsable { c with channel := s, buffer } = true := hu
  unfold Connection.markBroken
  rw [if_pos hu', if_pos hu]
  rfl

/-- Both connections were given up, wherever their channels are. -/
theorem Twin.spent (h : Live (Twin last limit limit') c c') {s s' : Script}
    (hs : Script.SameSending s s') (buffer buffer' : Bytes) :
    Twin last limit limit' { c with channel := s, buffer }.markBroken
      { c' with channel := s', buffer := buffer' }.markBroken := by
  rw [markBroken_moved s buffer h.2, markBroken_moved s' buffer' (h.1.face.isUsable.trans h.2)]
  refine h.1.markBroken.moved rfl rfl h.1.markBroken.parameters hs fun hu => ?_
  have hb : c.markBroken.isUsable = true := hu
  rw [markBroken_unusable] at hb
  cases hb

/-- Two connections that wait for more than there is fail alike, unless one is late. -/
theorem starved_coupled (h : Live (Twin last limit limit') c c') (hc : c.channel.Delivers [] last)
    (hc' : c'.channel.Delivers [] last) (hn : Frame.next c.buffer = .ok none)
    (hn' : Frame.next c'.buffer = .ok none) (hlast : ∀ bytes, last ≠ .chunk bytes) :
    Matched (Late limit) (Late limit') (fun _ => Live (Twin last limit limit'))
      (fun _ => Twin last limit limit') (receive c) (receive c') := by
  rcases fill_last hc hlast with ⟨s, hf, hk⟩ | ⟨e, d, hf, hl⟩
  · rcases fill_last hc' hlast with ⟨s', hf', hk'⟩ | ⟨e, d, hf', hl⟩
    · rw [receive_starved hn hf, receive_starved hn' hf', h.1.allowed]
      exact .error (Twin.spent h (h.1.sending.across hk hk') c.buffer c'.buffer)
    · rw [receive_starved hn' hf']
      exact .second (h.1.limit' ▸ hl)
  · rw [receive_starved hn hf]
    exact .first (h.1.limit ▸ hl)

/-- Both connections read the same, unless one is late. -/
theorem receive_coupled (hlast : ∀ bytes, last ≠ .chunk bytes) :
    Coupled (Late limit) (Late limit') (Live (Twin last limit limit')) receive receive
      (fun _ => Live (Twin last limit limit')) (fun _ => Twin last limit limit') := by
  constructor
  intro c c' h
  obtain ⟨w, hw, hw'⟩ := h.1.unread h.2
  -- A message that is passed over takes bytes off those that both still have to read.
  induction hlen : w.length using Nat.strongRecOn generalizing w c c' with
  | ind n ih =>
      obtain ⟨chunks, hc, hcw⟩ := hw
      obtain ⟨chunks', hc', hcw'⟩ := hw'
      rcases ripen hc with ⟨d, hd, hripe, hu⟩ | ⟨e, d, hr, hl⟩
      case inr =>
        rw [hr]
        exact .first (h.1.limit ▸ hl)
      rcases ripen hc' with ⟨d', hd', hripe', hu'⟩ | ⟨e, d', hr, hl⟩
      case inr =>
        rw [hr]
        exact .second (h.1.limit' ▸ hl)
      rw [hcw] at hu
      rw [hcw'] at hu'
      rw [hd.receive, hd'.receive]
      have parameters : d'.parameters = d.parameters := by
        rw [hd.frame, hd'.frame]
        exact h.1.parameters
      have frame : d = { c with
          channel := d.channel, buffer := d.buffer, parameters := d.parameters } := by
        rw [hd.frame]
      have frame' : d' = { c' with
          channel := d'.channel, buffer := d'.buffer, parameters := d'.parameters } := by
        rw [hd'.frame]
      have live : Live (Twin last limit limit') d d' :=
        ⟨h.1.moved frame frame' parameters (h.1.sending.across hd.sending hd'.sending)
          fun _ => ⟨w, hu, hu'⟩, hd.isUsable.trans h.2⟩
      have front := hripe.next hu hlast
      have front' := hripe'.next hu' hlast
      rcases hnext : Frame.next w with e | _ | ⟨frame, rest⟩
      · rw [hnext] at front front'
        rw [receive_malformed front, receive_malformed front']
        exact .error live.1.markBroken
      · rw [hnext] at front front'
        exact starved_coupled live front.2 front'.2 front.1 front'.1 hlast
      · rw [hnext] at front front'
        obtain ⟨tail, hn, hrest⟩ := front
        obtain ⟨tail', hn', hrest'⟩ := front'
        have read : Live (Twin last limit limit') { d with buffer := tail }
            { d' with buffer := tail' } :=
          ⟨live.1.moved rfl rfl parameters live.1.sending fun _ => ⟨rest, hrest, hrest'⟩,
            live.2⟩
        have noted (parameters : List (String × String)) : Live (Twin last limit limit')
            { d with buffer := tail, parameters } { d' with buffer := tail', parameters } :=
          ⟨live.1.moved rfl rfl rfl live.1.sending fun _ => ⟨rest, hrest, hrest'⟩, live.2⟩
        have shorter : rest.length < n := hlen ▸ Frame.next_shorter hnext
        rw [receive_frame hn, receive_frame hn']
        cases BackendMessage.decode frame with
        | error e => exact .error (Twin.spent live live.1.sending tail tail')
        | ok m =>
            cases m with
            | parameterStatus name value =>
                dsimp only
                rw [parameters]
                exact ih rest.length shorter _ _ (noted _) rest hrest hrest' rfl
            | noticeResponse report => exact ih rest.length shorter _ _ read rest hrest hrest' rfl
            | _ => exact .ok read

end

end

end Connection

end SqlWire
