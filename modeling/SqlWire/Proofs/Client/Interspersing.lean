import SqlWire.Proofs.Client.Chunking

/-!
# Asides make no difference

A server may put notices, and what it has to say of itself, between any two of its messages. The
client passes them over wherever it reads: whatever is done with the connection, from the handshake
to the end, the outcomes are the same without them, and the same is sent.
-/

namespace SqlWire

/-! ## Streams with asides put in -/

abbrev Marked := List (UInt8 × Bool)

namespace Marked

def own (bytes : Marked) : Bytes := (bytes.filter fun b => !b.2).map Prod.fst

def all (bytes : Marked) : Bytes := bytes.map Prod.fst

@[simp] theorem own_append (a b : Marked) : own (a ++ b) = own a ++ own b := by
  simp [own]

@[simp] theorem all_append (a b : Marked) : all (a ++ b) = all a ++ all b := by
  simp [all]

theorem own_of_added {bytes : Marked} (h : ∀ b ∈ bytes, b.2 = true) : own bytes = [] := by
  unfold own
  rw [List.filter_eq_nil_iff.2 fun b hb => by simp [h b hb], List.map_nil]

theorem own_of_kept {bytes : Marked} (h : ∀ b ∈ bytes, b.2 = false) : own bytes = all bytes := by
  unfold own all
  rw [List.filter_eq_self.2 fun b hb => by simp [h b hb]]

end Marked

/-- A whole message of a stream. One that was put in is an aside. -/
structure Piece where
  bytes : Bytes
  frame : Frame
  added : Bool
  whole : Frame.next bytes = .ok (some (frame, []))
  aside : added = true → ∃ m, BackendMessage.decode frame = .ok m ∧ m.isAside = true

namespace Piece

def marked (p : Piece) : Marked := p.bytes.map (·, p.added)

theorem mem_marked {p : Piece} {b : UInt8 × Bool} (h : b ∈ p.marked) : b.2 = p.added := by
  obtain ⟨a, -, rfl⟩ := List.mem_map.1 h
  rfl

@[simp] theorem all_marked (p : Piece) : Marked.all p.marked = p.bytes := by
  simp [Marked.all, marked, Function.comp_def]

theorem own_marked_added {p : Piece} (h : p.added = true) : Marked.own p.marked = [] :=
  Marked.own_of_added fun _ hb => (mem_marked hb).trans h

theorem own_marked_kept {p : Piece} (h : p.added = false) : Marked.own p.marked = p.bytes :=
  (Marked.own_of_kept fun _ hb => (mem_marked hb).trans h).trans p.all_marked

/-- A message of which a part is missing is not taken, whether it was put in or not. -/
theorem unfinished {p : Piece} {held more : Marked} (h : p.marked = held ++ more)
    (hm : more ≠ []) :
    Frame.next (Marked.own held) = .ok none ∧ Frame.next (Marked.all held) = .ok none := by
  have mem {b : UInt8 × Bool} (hb : b ∈ held) : b.2 = p.added :=
    mem_marked (h ▸ List.mem_append_left more hb)
  have whole : Frame.next (Marked.all held ++ Marked.all more) = .ok (some (p.frame, [])) := by
    rw [← Marked.all_append, ← h, all_marked]
    exact p.whole
  have unfinished : Frame.next (Marked.all held) = .ok none :=
    Frame.next_unfinished whole (by simpa [Marked.all] using hm)
  refine ⟨?_, unfinished⟩
  cases ha : p.added with
  | true =>
      rw [Marked.own_of_added fun b hb => (mem hb).trans ha]
      exact Frame.next_nil
  | false =>
      rw [Marked.own_of_kept fun b hb => (mem hb).trans ha]
      exact unfinished

/-- A message that a server puts on the wire is a piece of its stream. -/
theorem exists_of_encode {m : BackendMessage} {bytes : Bytes} {added : Bool} (hp : m.Plain)
    (he : m.encode = .ok bytes) (ha : added = true → m.isAside = true) :
    ∃ p : Piece, p.marked = bytes.map (·, added) := by
  obtain ⟨frame, hn, hd⟩ := BackendMessage.next_encode hp he []
  rw [List.append_nil] at hn
  have aside (h : added = true) : m.received.isAside = true := by
    have hm := ha h
    cases m with
    | parameterStatus | noticeResponse => rfl
    | _ => cases hm
  exact ⟨⟨bytes, frame, added, hn, fun h => ⟨_, hd, aside h⟩⟩, rfl⟩

end Piece

def Marked.ofMessages (ms : List (BackendMessage × Bool)) : Marked :=
  ms.flatMap fun m => (m.1.encode.toOption.getD []).map (·, m.2)

theorem Piece.exists_ofMessages {ms : List (BackendMessage × Bool)}
    (h : ∀ m ∈ ms, m.1.Plain ∧ m.1.encode.toOption.isSome = true ∧
      (m.2 = true → m.1.isAside = true)) :
    ∃ pieces : List Piece, Marked.ofMessages ms = pieces.flatMap Piece.marked := by
  induction ms with
  | nil => exact ⟨[], rfl⟩
  | cons m ms ih =>
      obtain ⟨⟨plain, encodes, aside⟩, hms⟩ := List.forall_mem_cons.1 h
      obtain ⟨pieces, hpieces⟩ := ih hms
      rcases he : m.1.encode with e | bytes
      · rw [he] at encodes
        cases encodes
      · obtain ⟨p, hp⟩ := Piece.exists_of_encode plain he aside
        refine ⟨p :: pieces, ?_⟩
        rw [List.flatMap_cons, hp, ← hpieces]
        unfold Marked.ofMessages
        rw [List.flatMap_cons, he]
        rfl

/-- Behind what is held of them, both lists deliver whole messages: one those that are there anyway,
the other also what was put in, in the same chunks. Then both end alike. -/
def Weaves (held : Marked) (ds ds' : List Delivery) : Prop :=
  ∃ (pieces : List Piece) (chunks : List Marked) (tail : List Delivery),
    held ++ chunks.flatten = pieces.flatMap Piece.marked ∧
    ds = chunks.map (fun chunk => .chunk (Marked.own chunk)) ++ tail ∧
    ds' = chunks.map (fun chunk => .chunk (Marked.all chunk)) ++ tail ∧
    ∀ bytes, tail.head? ≠ some (.chunk bytes)

/-- What is held begins with a whole message, or nothing can be taken of it. -/
theorem Weaves.front {held : Marked} {ds ds' : List Delivery} (h : Weaves held ds ds') :
    (Frame.next (Marked.own held) = .ok none ∧ Frame.next (Marked.all held) = .ok none) ∨
      ∃ (p : Piece) (behind : Marked), held = p.marked ++ behind ∧ Weaves behind ds ds' := by
  obtain ⟨pieces, chunks, tail, hw, hd, hd', ht⟩ := h
  cases pieces with
  | nil =>
      obtain ⟨rfl, -⟩ := List.append_eq_nil_iff.1 hw
      exact .inl ⟨rfl, rfl⟩
  | cons p pieces =>
      rw [List.flatMap_cons] at hw
      rcases List.append_eq_append_iff.1 hw with ⟨more, hp, hrest⟩ | ⟨behind, hheld, hrest⟩
      · by_cases hm : more = []
        · subst hm
          refine .inr ⟨p, [], by simpa using hp.symm, pieces, chunks, tail, ?_, hd, hd', ht⟩
          simpa using hrest
        · exact .inl (Piece.unfinished hp hm)
      · exact .inr ⟨p, behind, hheld, pieces, chunks, tail, hrest.symm, hd, hd', ht⟩

namespace Script

def delivering (ds : List Delivery) (s : Script) : Script := { s with deliveries := ds }

/-- The second script is the first with asides put in between its messages. -/
structure Interspersed (s s' : Script) : Prop where
  weaves : Weaves [] s.deliveries s'.deliveries
  otherwise : s' = s.delivering s'.deliveries

/-- Asides may be put in between any messages, wherever the chunks begin and end. -/
theorem interspersed_ofMessages {ms : List (BackendMessage × Bool)} {chunks : List Marked}
    (hms : ∀ m ∈ ms, m.1.Plain ∧ m.1.encode.toOption.isSome = true ∧
      (m.2 = true → m.1.isAside = true))
    (hchunks : chunks.flatten = Marked.ofMessages ms) (s : Script) {tail : List Delivery}
    (ht : ∀ bytes, tail.head? ≠ some (.chunk bytes)) :
    Interspersed (s.delivering (chunks.map (fun chunk => .chunk (Marked.own chunk)) ++ tail))
      (s.delivering (chunks.map (fun chunk => .chunk (Marked.all chunk)) ++ tail)) := by
  obtain ⟨pieces, hpieces⟩ := Piece.exists_ofMessages hms
  exact ⟨⟨pieces, chunks, tail, hchunks.trans hpieces, rfl, rfl, ht⟩, rfl⟩

section

variable (s : Script) (ds : List Delivery)

theorem send_delivering (bytes : Bytes) : Script.send bytes (s.delivering ds) =
    ((Script.send bytes s).1, (Script.send bytes s).2.delivering ds) := by
  unfold Script.send delivering
  dsimp only
  split <;> rfl

theorem deliveries_send (bytes : Bytes) : (Script.send bytes s).2.deliveries = s.deliveries := by
  unfold Script.send
  dsimp only
  split <;> rfl

theorem bound_delivering (limit : Option Duration) : Script.bound limit (s.delivering ds) =
    ((Script.bound limit s).1, (Script.bound limit s).2.delivering ds) := by
  unfold Script.bound delivering
  dsimp only
  split <;> rfl

theorem deliveries_bound (limit : Option Duration) :
    (Script.bound limit s).2.deliveries = s.deliveries := by
  unfold Script.bound
  dsimp only
  split <;> rfl

theorem now_delivering : (s.delivering ds).now = (s.now.1, s.now.2.delivering ds) := by
  unfold Script.now delivering
  dsimp only
  split <;> rfl

theorem deliveries_now : s.now.2.deliveries = s.deliveries := by
  unfold Script.now
  split <;> rfl

/-- Reading makes both hold one more chunk, or shows both the same end. -/
theorem receive_delivering {s : Script} {ds : List Delivery} {held : Marked}
    (h : Weaves held s.deliveries ds) :
    (∃ chunk t ds', s.receive = (.chunk (Marked.own chunk), t) ∧
        (s.delivering ds).receive = (.chunk (Marked.all chunk), t.delivering ds') ∧
        Weaves (held ++ chunk) t.deliveries ds') ∨
      ∃ last t ds', (∀ bytes, last ≠ .chunk bytes) ∧ s.receive = (last, t) ∧
        (s.delivering ds).receive = (last, t.delivering ds') := by
  obtain ⟨pieces, chunks, tail, hw, hd, rfl, ht⟩ := h
  obtain ⟨ds, _, _, _, _, _, _, _, _, events⟩ := s
  subst hd
  cases chunks with
  | nil =>
      cases tail with
      | nil => exact .inr ⟨.closed, _, [], nofun, rfl, rfl⟩
      | cons d rest =>
          have ended (bytes : Bytes) (hb : d = .chunk bytes) : False :=
            ht bytes (congrArg some hb)
          exact .inr ⟨d, _, rest, ended, rfl, rfl⟩
  | cons chunk chunks =>
      refine .inl ⟨chunk, _, _, rfl, rfl, pieces, chunks, tail, ?_, rfl, rfl, ht⟩
      rw [List.append_assoc]
      exact hw

end

end Script

namespace Connection

def Abreast (c c' : Connection Script) : Prop :=
  ∃ held : Marked, c.buffer = Marked.own held ∧ c'.buffer = Marked.all held ∧
    Weaves held c.channel.deliveries c'.channel.deliveries

/-- Two connections that are the same to see from outside, of which the second is still to read
the asides that were put into what the first is still to read. -/
structure Woven (c c' : Connection Script) : Prop where
  face : SameFace c c'
  deadline : c'.deadline = c.deadline
  channel : ∃ ds, c'.channel = c.channel.delivering ds
  unread : c.isUsable = true → Abreast c c'

section

variable {c d c' d' : Connection Script}

theorem Woven.moved (h : Woven c c')
    (hd : d = { c with channel := d.channel, buffer := d.buffer, parameters := d.parameters })
    (hd' : d' = { c' with channel := d'.channel, buffer := d'.buffer, parameters := d'.parameters })
    (hs : ∃ ds, d'.channel = d.channel.delivering ds) (hu : d.isUsable = true → Abreast d d') :
    Woven d d' := by
  have face := h.face
  refine ⟨?_, ?_, hs, hu⟩
  · rw [hd, hd']
    exact { face with }
  · rw [hd, hd']
    exact h.deadline

theorem Woven.within (h : Woven c c') (hd : Within c d) (hd' : Within c' d')
    (hf : SameFace d d') : Woven d d' := by
  refine ⟨hf, ?_, ?_, fun hu => ?_⟩
  · rw [hd.deadline, hd'.deadline]
    exact h.deadline
  · rw [hd.channel, hd'.channel]
    exact h.channel
  · obtain ⟨held, hb, hb', hw⟩ := h.unread (hd.usable hu)
    refine ⟨held, hd.buffer.trans hb, hd'.buffer.trans hb', ?_⟩
    rw [hd.channel, hd'.channel]
    exact hw

theorem Woven.markBroken (h : Woven c c') : Woven c.markBroken c'.markBroken := by
  have deadline (c : Connection Script) : c.markBroken.deadline = c.deadline := by
    unfold Connection.markBroken
    split <;> rfl
  refine ⟨h.face.markBroken, ?_, ?_, fun hu => ?_⟩
  · rw [deadline, deadline]
    exact h.deadline
  · rw [markBroken_channel, markBroken_channel]
    exact h.channel
  · rw [markBroken_unusable] at hu
    cases hu

/-- Both connections were given up, wherever their channels are. -/
theorem Woven.spent (h : Live Woven c c') {s s' : Script} (hs : ∃ ds, s' = s.delivering ds)
    (buffer buffer' : Bytes) :
    Woven { c with channel := s, buffer }.markBroken
      { c' with channel := s', buffer := buffer' }.markBroken := by
  rw [markBroken_moved s buffer h.2, markBroken_moved s' buffer' (h.1.face.isUsable.trans h.2)]
  refine h.1.markBroken.moved rfl rfl hs fun hu => ?_
  have hb : c.markBroken.isUsable = true := hu
  rw [markBroken_unusable] at hb
  cases hb

theorem Woven.abreast (h : Live Woven c c') : ∃ (ds : List Delivery) (held : Marked),
    c'.channel = c.channel.delivering ds ∧ c.buffer = Marked.own held ∧
      c'.buffer = Marked.all held ∧ Weaves held c.channel.deliveries ds := by
  obtain ⟨ds, hs⟩ := h.1.channel
  obtain ⟨held, hb, hb', hw⟩ := h.1.unread h.2
  rw [hs] at hw
  exact ⟨ds, held, hs, hb, hb', hw⟩

/-- Both connections read the same time. -/
theorem Woven.clock (h : Woven c c') :
    (Channel.now c'.channel).1 = (Channel.now c.channel).1 ∧
      Woven { c with channel := (Channel.now c.channel).2 }
        { c' with channel := (Channel.now c'.channel).2 } := by
  obtain ⟨ds, hs⟩ := h.channel
  have read : Channel.now c'.channel =
      ((Channel.now c.channel).1, (Channel.now c.channel).2.delivering ds) := by
    rw [hs]
    exact Script.now_delivering c.channel ds
  rw [read]
  refine ⟨rfl, h.moved rfl rfl ⟨ds, rfl⟩ fun hu => ?_⟩
  obtain ⟨held, hb, hb', hw⟩ := h.unread hu
  rw [hs, ← Script.deliveries_now c.channel] at hw
  exact ⟨held, hb, hb', hw⟩

theorem Woven.started (h : Woven c c') (limit : Option Duration) :
    Woven (c.started limit) (c'.started limit) := by
  cases limit with
  | none =>
      have face := h.face
      exact ⟨{ face with }, rfl, h.channel, h.unread⟩
  | some limit =>
      obtain ⟨time, read⟩ := h.clock
      have face := read.face
      refine ⟨{ face with }, ?_, read.channel, read.unread⟩
      exact congrArg (fun time => some (Deadline.mk (time + limit.nanos) limit)) time

/-! ## Reading and sending -/

/-- Both connections take the same chunk, or break. -/
theorem takeDelivery_woven (limit : Option Duration) :
    Coupled Never Never (Live Woven) (takeDelivery limit) (takeDelivery limit)
      (fun _ => Live Woven) (fun _ => Woven) := by
  constructor
  intro c c' h
  obtain ⟨ds, held, hs, hb, hb', hw⟩ := Woven.abreast h
  rw [← Script.deliveries_bound c.channel limit] at hw
  unfold takeDelivery
  dsimp only [Channel.bound, Channel.receive]
  rw [hs, Script.bound_delivering]
  generalize Script.bound limit c.channel = r at hw ⊢
  obtain ⟨_ | f, s⟩ := r
  · dsimp only
    rcases Script.receive_delivering hw with ⟨chunk, t, ds', hr, hr', hw⟩ |
      ⟨last, t, ds', hlast, hr, hr'⟩
    · rw [hr, hr']
      refine .ok ⟨h.1.moved rfl rfl ⟨ds', rfl⟩ fun _ => ⟨held ++ chunk, ?_, ?_, hw⟩, h.2⟩
      · rw [extend, Marked.own_append, hb]
      · rw [extend, Marked.all_append, hb']
    · have allowed : c'.deadline.map Deadline.allowed = c.deadline.map Deadline.allowed :=
        congrArg _ h.1.deadline
      rw [hr, hr', allowed]
      cases last with
      | chunk bytes => exact absurd rfl (hlast bytes)
      | closed => exact .error (Woven.spent h ⟨ds', rfl⟩ c.buffer c'.buffer)
      | failed f => exact .error (Woven.spent h ⟨ds', rfl⟩ c.buffer c'.buffer)
  · exact .error (Woven.spent h ⟨ds, rfl⟩ c.buffer c'.buffer)

theorem fill_woven :
    Coupled Never Never (Live Woven) fill fill (fun _ => Live Woven) (fun _ => Woven) := by
  constructor
  intro c c' h
  rcases Option.eq_none_or_eq_some c.deadline with hd | ⟨limit, hd⟩
  · rw [fill_unlimited hd, fill_unlimited (h.1.deadline.trans hd)]
    exact (takeDelivery_woven none).run c c' h
  · obtain ⟨time, read⟩ := h.1.clock
    rw [fill_limited hd, fill_limited (h.1.deadline.trans hd), time]
    split
    · exact .error read.markBroken
    · exact (takeDelivery_woven _).run _ _ ⟨read, h.2⟩

/-- Both connections read the same, and the second passes over what was put in. -/
theorem receive_woven :
    Coupled Never Never (Live Woven) receive receive (fun _ => Live Woven) (fun _ => Woven) := by
  constructor
  intro c c' h
  -- Only the second connection moves at every step, as what was put in is there for it alone.
  induction hlen : c'.backlog using Nat.strongRecOn generalizing c c' with
  | ind n ih =>
      obtain ⟨held, hb, hb', hw⟩ := h.1.unread h.2
      rcases hw.front with ⟨hn, hn'⟩ | ⟨p, behind, rfl, hbehind⟩
      · rw [← hb] at hn
        rw [← hb'] at hn'
        have shorter {d : Connection Script} (hf : fill c' = (.ok (), d)) : d.backlog < n :=
          hlen ▸ fill_backlog hf
        have hf := fill_woven.run c c' h
        generalize hr : fill c = r at hf
        generalize hr' : fill c' = r' at hf
        cases hf with
        | ok h =>
            rw [receive_filled hn hr, receive_filled hn' hr']
            exact ih _ (shorter hr') _ _ h rfl
        | error h =>
            rw [receive_starved hn hr, receive_starved hn' hr']
            exact .error h
        | first h => exact h.elim
        | second h => exact h.elim
      · have taken' : Frame.next c'.buffer = .ok (some (p.frame, Marked.all behind)) := by
          rw [hb', Marked.all_append, Piece.all_marked]
          exact Frame.next_append p.whole _
        have shorter : (Channel.pending c'.channel) + (Marked.all behind).length < n :=
          hlen ▸ Nat.add_lt_add_left (Frame.next_shorter taken') _
        cases ha : p.added with
        | true =>
            obtain ⟨m, hm, haside⟩ := p.aside ha
            obtain ⟨parameters, hr'⟩ := receive_aside taken' hm haside
            rw [hr']
            have held : c.buffer = Marked.own behind := by
              rw [hb, Marked.own_append, Piece.own_marked_added ha, List.nil_append]
            exact ih _ shorter _ _
              ⟨h.1.moved rfl rfl h.1.channel fun _ => ⟨behind, held, rfl, hbehind⟩, h.2⟩ rfl
        | false =>
            have taken : Frame.next c.buffer = .ok (some (p.frame, Marked.own behind)) := by
              rw [hb, Marked.own_append, Piece.own_marked_kept ha]
              exact Frame.next_append p.whole _
            have read (parameters parameters' : List (String × String)) :
                Live Woven { c with buffer := Marked.own behind, parameters }
                  { c' with buffer := Marked.all behind, parameters := parameters' } :=
              ⟨h.1.moved rfl rfl h.1.channel fun _ => ⟨behind, rfl, rfl, hbehind⟩, h.2⟩
            rcases hm : BackendMessage.decode p.frame with e | m
            · rw [receive_frame taken, receive_frame taken', hm]
              exact .error (Woven.spent h h.1.channel _ _)
            · cases haside : m.isAside with
              | true =>
                  obtain ⟨parameters, hr⟩ := receive_aside taken hm haside
                  obtain ⟨parameters', hr'⟩ := receive_aside taken' hm haside
                  rw [hr, hr']
                  exact ih _ shorter _ _ (read parameters parameters') rfl
              | false =>
                  rw [receive_message taken hm haside, receive_message taken' hm haside]
                  exact .ok (read c.parameters c'.parameters)

theorem send_woven (messages : List FrontendMessage) :
    Coupled Never Never (Live Woven) (send messages) (send messages) (fun _ => Live Woven)
      (fun _ => Woven) := by
  constructor
  intro c c' h
  obtain ⟨ds, held, hs, hb, hb', hw⟩ := Woven.abreast h
  unfold send
  cases FrontendMessage.encodeAll messages with
  | error e => exact .error h.1
  | ok bytes =>
      rw [← Script.deliveries_send c.channel bytes] at hw
      dsimp only [Channel.send]
      rw [hs, Script.send_delivering]
      generalize Script.send bytes c.channel = r at hw ⊢
      obtain ⟨_ | f, s⟩ := r
      · exact .ok ⟨h.1.moved rfl rfl ⟨ds, rfl⟩ fun _ => ⟨held, hb, hb', hw⟩, h.2⟩
      · exact .error (Woven.spent h ⟨ds, rfl⟩ c.buffer c'.buffer)

/-- A connection whose server puts asides in is served like one whose server does not. -/
theorem woven_coupling : Coupling (fun _ => True) Woven where
  face h := h.face
  within h := h.within
  markBroken h := h.markBroken
  shut h := by
    obtain ⟨ds, hs⟩ := h.channel
    have face := h.face
    refine ⟨{ face with transaction := rfl, status := rfl }, h.deadline, ⟨ds, ?_⟩, nofun⟩
    exact congrArg (fun s => (Channel.close s).2) hs
  started {c c'} h := by
    rw [h.face.statementTimeout]
    exact h.started _
  ended h := by
    have face := h.face
    exact ⟨{ face with }, rfl, h.channel, h.unread⟩
  limited limit _ h := by
    have face := h.face
    exact ⟨{ face with statementTimeout := rfl }, h.deadline, h.channel, h.unread⟩
  send := send_woven
  receive := receive_woven

end

/-! ## The whole course of a connection -/

section

variable {s s' : Script}

theorem fresh_woven (h : s.Interspersed s') (options : ConnectOptions) :
    Woven (fresh options s) (fresh options s') :=
  ⟨⟨rfl, rfl, rfl, rfl, rfl, rfl⟩, rfl, ⟨_, h.otherwise⟩, fun _ => ⟨[], rfl, rfl, h.weaves⟩⟩

/-- Both scripts let the client in, or neither does. -/
theorem connect_woven (h : s.Interspersed s') (options : ConnectOptions) :
    (connect options s').1 = (connect options s).1 ∧
      Woven (connect options s).2 (connect options s').2 := by
  have begun : Live Woven ((fresh options s).started (some options.connectTimeout))
      ((fresh options s').started (some options.connectTimeout)) :=
    ⟨(fresh_woven h options).started _, rfl⟩
  unfold connect
  rw [timed_apply, timed_apply]
  refine Matched.punctual ((woven_coupling.greets.greet options).run _ _ begun)
    (fun _ c c' hc => ?_) fun e c c' hc => ?_
  · exact ⟨rfl, woven_coupling.ended hc.1⟩
  · exact ⟨rfl, woven_coupling.close_coupled (woven_coupling.ended hc)⟩

/-- All of a connection and of what was done to its channel, but neither what it has yet to read
nor what its server said of itself. -/
def outline (c : Connection Script) : Connection (List ChannelEvent) :=
  { c with channel := c.channel.events, buffer := [], parameters := [] }

theorem Woven.outline {c c' : Connection Script} (h : Woven c c') : c'.outline = c.outline := by
  obtain ⟨ds, hs⟩ := h.channel
  unfold Connection.outline
  rw [hs, h.face.transaction, h.face.autocommit, h.face.status, h.face.statementTimeout,
    h.face.backendKey, h.face.nextResult, h.deadline]
  rfl

end

end Connection

def Outcome.outline : Outcome → Outcome
  | .parameter _ => .parameter none
  | outcome => outcome

namespace Desk

open Connection

def outline (d : Desk Script) : Desk (List ChannelEvent) :=
  { d with connection := d.connection.outline }

def outlineAll (d : Desk Script) : List Operation → List (Outcome × Desk (List ChannelEvent))
  | [] => []
  | operation :: rest =>
    let (outcome, d) := d.perform operation
    (outcome.outline, d.outline) :: d.outlineAll rest

variable {d d' : Desk Script}

theorem Pair.outline (h : Pair Woven d d') : d'.outline = d.outline := by
  unfold Desk.outline
  rw [h.connection.outline, h.scopes, h.cursors]

theorem perform_woven (h : Pair Woven d d') (operation : Operation) :
    (d'.perform operation).1.outline = (d.perform operation).1.outline ∧
      Pair Woven (d.perform operation).2 (d'.perform operation).2 := by
  by_cases hp : ∃ name, operation = .parameter name
  · obtain ⟨name, rfl⟩ := hp
    exact ⟨rfl, h⟩
  · obtain ⟨outcome, next⟩ := perform_paired woven_coupling h operation (fun _ _ => trivial)
      fun name hn => absurd ⟨name, hn⟩ hp
    exact ⟨congrArg Outcome.outline outcome, next⟩

theorem performAll_woven (operations : List Operation) (h : Pair Woven d d') :
    d'.outlineAll operations = d.outlineAll operations ∧
      Pair Woven (d.performAll operations).2 (d'.performAll operations).2 := by
  induction operations generalizing d d' with
  | nil => exact ⟨rfl, h⟩
  | cons operation operations ih =>
      obtain ⟨outcome, next⟩ := perform_woven h operation
      obtain ⟨later, last⟩ := ih next
      refine ⟨?_, last⟩
      rw [outlineAll, outlineAll]
      dsimp only
      rw [outcome, next.outline, later]

end Desk

namespace Connection

/-- Whatever is done with a connection, from its beginning to its end, it makes no difference what
asides the server puts in between its messages: only what it said of itself may differ. The
outcomes, the connection, its scopes and cursors after each operation, and all that was done to the
channel are the same. -/
theorem asides_make_no_difference {s s' : Script} (options : ConnectOptions)
    (operations : List Operation) (h : s.Interspersed s') :
    let desk : Desk Script := { connection := (connect options s).2 }
    let desk' : Desk Script := { connection := (connect options s').2 }
    (connect options s').1 = (connect options s).1 ∧ desk'.outline = desk.outline ∧
      desk'.outlineAll operations = desk.outlineAll operations ∧
      (desk'.performAll operations).2.leave.outline =
        (desk.performAll operations).2.leave.outline := by
  intro desk desk'
  obtain ⟨result, woven⟩ := connect_woven h options
  have pair : Desk.Pair Woven desk desk' := ⟨woven, rfl, rfl⟩
  obtain ⟨same, performed⟩ := Desk.performAll_woven operations pair
  exact ⟨result, pair.outline, same, (Desk.leave_paired woven_coupling performed).outline⟩

def interrupted : List (BackendMessage × Bool) :=
  [(.parameterStatus "zone" "utc", true), (.readyForQuery .idle, false),
    (.rowDescription [.ofType "n" 1 TypeOid.int8 8], false),
    (.noticeResponse ⟨"NOTICE", "01000", "slow", none⟩, true),
    (.dataRow [some [49]], false), (.parameterStatus "zone" "cet", true),
    (.commandComplete "SELECT 1", false), (.readyForQuery .idle, false),
    (.noticeResponse ⟨"NOTICE", "01000", "done", none⟩, true)]

def interruptedChunks : List Marked :=
  let bytes := Marked.ofMessages interrupted
  [bytes.take 9, (bytes.drop 9).take 40, bytes.drop 49]

theorem asides_make_no_difference_interrupted :
    let s : Script :=
      { deliveries := interruptedChunks.map (fun chunk => .chunk (Marked.own chunk)) ++ [.closed] }
    let s' : Script :=
      { deliveries := interruptedChunks.map (fun chunk => .chunk (Marked.all chunk)) ++ [.closed] }
    let options : ConnectOptions := { autocommit := true }
    let operations := [Operation.openCursor "k", .executeOn "k" "SELECT n FROM t" [],
      .fetchAll "k", .parameter "zone"]
    let desk : Desk Script := { connection := (connect options s).2 }
    let desk' : Desk Script := { connection := (connect options s').2 }
    s.Interspersed s' ∧ (desk'.performAll operations).1 ≠ (desk.performAll operations).1 ∧
      (connect options s').1 = (connect options s).1 ∧ desk'.outline = desk.outline ∧
      desk'.outlineAll operations = desk.outlineAll operations ∧
      (desk'.performAll operations).2.leave.outline =
        (desk.performAll operations).2.leave.outline := by
  intro s s' options operations desk desk'
  have whole : interruptedChunks.flatten = Marked.ofMessages interrupted := by decide +kernel
  have sayable : ∀ m ∈ interrupted, m.1.Plain ∧ m.1.encode.toOption.isSome = true ∧
      (m.2 = true → m.1.isAside = true) := by
    intro m hm
    simp only [interrupted, List.mem_cons, List.not_mem_nil, or_false] at hm
    rcases hm with rfl | rfl | rfl | rfl | rfl | rfl | rfl | rfl | rfl <;>
      exact ⟨trivial, by decide +kernel, by decide⟩
  have interspersed : s.Interspersed s' :=
    Script.interspersed_ofMessages sayable whole { deliveries := [] } (by simp)
  exact ⟨interspersed, by decide +kernel, asides_make_no_difference options operations interspersed⟩

end Connection

end SqlWire
