import SqlWire.Proofs.Client.Decisions
import SqlWire.Proofs.Client.Finality

/-!
# Statements with parameters on their way to the server

A statement with parameters goes out as five messages in one piece, or not at all. The session
takes them apart into the messages that were sent exactly if there are no more parameters than a
signed 16-bit count can say: the counts in front of the types and of the values are cut off
where they do not fit.
-/

namespace SqlWire

theorem mapM_cons_eq_ok {ε α β : Type} {f : α → Except ε β} {a : α} {as : List α} {b : β}
    {bs : List β} :
    (a :: as).mapM f = .ok (b :: bs) ↔ f a = .ok b ∧ as.mapM f = .ok bs := by
  rw [List.mapM_cons]
  rcases f a with e | b'
  · simp [bind, Except.bind]
  · rcases as.mapM f with e | bs'
    · simp [bind, Except.bind]
    · simp [bind, Except.bind, pure, Except.pure]

namespace FrontendMessage

/-- The bytes are whole frames, and these hold the messages. -/
def ReadAs (bytes : Bytes) (ms : List FrontendMessage) : Prop :=
  ∃ frames, FrameBuffer.drain bytes = ⟨frames, .ok FrameBuffer.empty⟩ ∧
    frames.mapM decode = .ok ms

/-- A framed message is read back exactly if its count says how long its list is. -/
theorem decode_iff_counted {m : FrontendMessage} {tag : Char} (ht : m.tag? = some tag)
    {raw : Bytes} (hb : m.body = .ok raw) (hl : raw.length ≤ Frame.maxBody) :
    decode ⟨tag.toUInt8, raw⟩ = .ok m ↔ m.entries ≤ 32767 := by
  constructor
  · intro hd
    refine counted_of_decode hb ?_
    rw [ht]
    exact hd
  · intro hc
    have plain : m.Plain := by
      cases m with
      | startup => cases ht
      | _ => trivial
    have carried : m.Carried := ⟨plain, .of_body (m.exists_body.1 ⟨raw, hb⟩) hc hb hl⟩
    have hd := carried.decodeBehind hb
    rwa [ht] at hd

/-- Messages that go out in one piece are taken apart as they were sent exactly if each of their
counts says how long its list is. -/
theorem readAs_iff {ms : List FrontendMessage} (ht : ∀ m ∈ ms, m.tag? ≠ none) {bytes : Bytes}
    (h : encodeAll ms = .ok bytes) : ReadAs bytes ms ↔ ∀ m ∈ ms, m.entries ≤ 32767 := by
  have apart : ∃ frames, FrameBuffer.drain bytes = ⟨frames, .ok FrameBuffer.empty⟩ ∧
      (frames.mapM decode = .ok ms ↔ ∀ m ∈ ms, m.entries ≤ 32767) := by
    induction ms generalizing bytes with
    | nil =>
        cases h
        exact ⟨[], FrameBuffer.drain_none Frame.next_nil, by simp [pure, Except.pure]⟩
    | cons m ms ih =>
        obtain ⟨hm, hms⟩ := List.forall_mem_cons.1 ht
        obtain ⟨front, rest, hf, hr, rfl⟩ := encodeAll_cons h
        obtain ⟨tag, htag⟩ := Option.ne_none_iff_exists'.1 hm
        obtain ⟨raw, hb, hframe⟩ := ok_of_bind hf
        rw [htag] at hframe
        obtain ⟨frames, hd, hread⟩ := ih hms hr
        refine ⟨⟨tag.toUInt8, raw⟩ :: frames, ?_, ?_⟩
        · rw [FrameBuffer.drain_some (Frame.next_tagged hframe rest), hd]
        · rw [mapM_cons_eq_ok, List.forall_mem_cons, hread,
            decode_iff_counted htag hb (Frame.tagged_eq_ok hframe).1]
  obtain ⟨frames, hd, hread⟩ := apart
  constructor
  · rintro ⟨frames', hd', hm⟩
    rw [hd] at hd'
    cases hd'
    exact hread.1 hm
  · exact fun hc => ⟨frames, hd, hread.2 hc⟩

end FrontendMessage

inductive ChannelCall where
  | send (bytes : Bytes)
  | bound (limit : Option Duration)
  | receive
  | close
  deriving DecidableEq, Repr

/-- A channel with a record of its calls, the latest last, whether or not they failed. -/
structure Logged (σ : Type) where
  channel : σ
  log : List ChannelCall := []

namespace Logged

variable {σ α : Type}

def untouched (channel : σ) : Logged σ := { channel }

def noting (s : Logged σ) (call : ChannelCall) (r : α × σ) : α × Logged σ :=
  (r.1, { channel := r.2, log := s.log ++ [call] })

theorem under {r : α × σ} {a : α} {log : List ChannelCall} {s' : Logged σ}
    (h : (r.1, Logged.mk r.2 log) = (a, s')) : r = (a, s'.channel) := by
  cases h
  rfl

instance [Channel σ] : Channel (Logged σ) where
  send bytes s := s.noting (.send bytes) (Channel.send bytes s.channel)
  bound limit s := s.noting (.bound limit) (Channel.bound limit s.channel)
  receive s := s.noting .receive (Channel.receive s.channel)
  close s := s.noting .close (Channel.close s.channel)
  now s :=
    let r := Channel.now s.channel
    (r.1, { s with channel := r.2 })
  pending s := Channel.pending s.channel
  pending_bound limit s := Channel.pending_bound limit s.channel
  pending_now s := Channel.pending_now s.channel
  pending_receive := by
    intro s s' bytes h
    exact Channel.pending_receive (under h)

end Logged

def ChannelCall.sent? : ChannelCall → Option Bytes
  | .send bytes => some bytes
  | _ => none

namespace Connection

variable {σ : Type} [Channel σ] {α : Type} {c d : Connection (Logged σ)} {S : List Bytes}

omit [Channel σ] in
def log (c : Connection (Logged σ)) : List ChannelCall :=
  c.channel.log

omit [Channel σ] in
def sends (c : Connection (Logged σ)) : List Bytes :=
  c.log.filterMap ChannelCall.sent?

/-! ## What reading sends -/

omit [Channel σ] in
theorem sends_of_channel (h : d.channel = c.channel) : d.sends = c.sends :=
  congrArg (fun s => s.log.filterMap ChannelCall.sent?) h

theorem delivers_sends {s s' : Logged σ} {w : Bytes} (h : Channel.Delivers s w s') :
    s'.log.filterMap ChannelCall.sent? = s.log.filterMap ChannelCall.sent? := by
  have unsent (log : List ChannelCall) {call : ChannelCall} (hc : call.sent? = none) :
      (log ++ [call]).filterMap ChannelCall.sent? = log.filterMap ChannelCall.sent? := by
    simp [hc]
  induction h with
  | refl => rfl
  | bound limit _ ih => exact (unsent _ rfl).trans ih
  | now _ ih => exact ih
  | chunk _ _ ih => exact (unsent _ rfl).trans ih
  | ended _ _ ih => exact (unsent _ rfl).trans ih

theorem receive_hands_over :
    Ensures (·.sends = S) (receive : Action (Logged σ) BackendMessage) (fun _ => (·.sends = S))
      (fun _ => (·.sends = S)) := by
  refine Ensures.of_each fun c hc => (receive_reads c).mono (fun _ h => h) ?_ ?_
  · rintro m d ⟨ms, -, hr⟩
    obtain ⟨w, -, hw, -⟩ := hr.path
    exact (delivers_sends hw).trans hc
  · rintro e d ⟨d', -, ⟨w, hw⟩, rfl⟩
    exact (sends_of_channel (markBroken_channel d')).trans ((delivers_sends hw).trans hc)

/-- No reader of an answer sends anything. -/
theorem readings_sends (S : List Bytes) :
    Readings (σ := Logged σ) (·.sends = S) (fun _ => (·.sends = S)) (·.sends = S) (·.sends = S)
      (·.sends = S) where
  receive := receive_hands_over.mono (fun _ h => h) (fun _ _ h => by simpa using h) fun _ _ h => h
  applied _ h := h
  failed {c} h := by
    unfold failTransaction
    split
    · exact h
    · exact h
  weaken h := h
  lost h := h
  dropped {c} h := (sends_of_channel (markBroken_channel c)).trans h
  cut {c} h := (sends_of_channel (markBroken_channel c)).trans (h.elim id id)

/-! ## What a statement sends -/

/-- Messages with a form as bytes are handed to the channel in one piece. -/
theorem send_hands_over {messages : List FrontendMessage} {bytes : Bytes}
    (hb : FrontendMessage.encodeAll messages = .ok bytes) :
    Ensures (·.sends = S) (send messages : Action (Logged σ) Unit)
      (fun _ => (·.sends = S ++ [bytes])) (fun _ => (·.sends = S ++ [bytes])) := by
  constructor
  intro c hc
  have handed : { c with channel := (Channel.send bytes c.channel).2 }.sends = S ++ [bytes] := by
    rw [← hc]
    exact List.filterMap_append
  unfold send
  rw [hb]
  dsimp only
  rcases hs : Channel.send bytes c.channel with ⟨_ | f, channel⟩
  · rw [hs] at handed
    exact handed
  · rw [hs] at handed
    exact (sends_of_channel (markBroken_channel _)).trans handed

theorem send_withheld {messages : List FrontendMessage} {e : WireError}
    (he : FrontendMessage.encodeAll messages = .error e) :
    Ensures (·.sends = S) (send messages : Action (Logged σ) Unit) (fun _ _ => False)
      (fun _ => (·.sends = S)) := by
  constructor
  intro c hc
  unfold send
  rw [he]
  exact hc

def beginning : Bytes :=
  (FrontendMessage.query "BEGIN").encode.toOption.getD []

theorem begin_sends :
    Ensures (·.sends = S) (command "BEGIN" : Action (Logged σ) (Option String))
      (fun _ => (·.sends = S ++ [beginning])) (fun _ => (·.sends = S ++ [beginning])) := by
  have encoded : FrontendMessage.encodeAll [.query "BEGIN"] = .ok beginning := by decide +kernel
  exact (send_hands_over encoded).bind fun _ => (readings_sends _).command

theorem submit_sends {sql : String} {params : List Value} {bytes : Bytes}
    (hb : FrontendMessage.encodeAll (statementMessages sql params) = .ok bytes) :
    Ensures (·.sends = S) (submit sql params : Action (Logged σ) Submitted)
      (fun _ => (·.sends = S ++ [bytes])) (fun _ => (·.sends = S ++ [bytes])) :=
  (send_hands_over hb).bind fun _ => (readings_sends _).statement fun _ h => h

theorem submit_withheld {sql : String} {params : List Value} {e : WireError}
    (he : FrontendMessage.encodeAll (statementMessages sql params) = .error e) :
    Ensures (·.sends = S) (submit sql params : Action (Logged σ) Submitted) (fun _ _ => False)
      (fun _ => (·.sends = S)) :=
  (send_withheld he).bind fun _ => ⟨fun _ h => h.elim⟩

/-- A time limit sends nothing. -/
theorem timedStatement_sends {action : Action (Logged σ) α} {P : List Bytes → Prop}
    {Q : α → List Bytes → Prop} {E : ClientError → List Bytes → Prop}
    (h : Ensures (fun c => P c.sends) action (fun a c => Q a c.sends) (fun e c => E e c.sends)) :
    Ensures (fun c => P c.sends) (timedStatement action) (fun a c => Q a c.sends)
      (fun e c => E e c.sends) := by
  have timed (limit : Option Duration) : Ensures (fun c => P c.sends) (timed limit action)
      (fun a c => Q a c.sends) (fun e c => E e c.sends) := by
    refine timed_ensures (fun c hc => ?_) h
    cases limit with
    | none => exact hc
    | some d => exact hc
  exact ⟨fun c hc => (timed c.statementTimeout).run c hc⟩

/-- Behind `S`, at most the beginning of a transaction was handed over. -/
def Opening (S : List Bytes) (own : List Bytes) : Prop :=
  own = S ∨ own = S ++ [beginning]

/-- Behind `S`, these messages were handed over in one piece, at most behind the beginning of a
transaction. -/
def Whole (messages : List FrontendMessage) (S sends : List Bytes) : Prop :=
  ∃ own bytes, Opening S own ∧ FrontendMessage.encodeAll messages = .ok bytes ∧
    sends = own ++ [bytes]

/-- The messages of a statement are handed over in one piece, or the statement fails before any of
them is. -/
theorem submit_whole (sql : String) (params : List Value) {own : List Bytes}
    (ho : Opening S own) :
    Ensures (·.sends = own) (submit sql params : Action (Logged σ) Submitted)
      (fun _ d => Whole (statementMessages sql params) S d.sends)
      (fun _ d => Opening S d.sends ∨ Whole (statementMessages sql params) S d.sends) := by
  cases hb : FrontendMessage.encodeAll (statementMessages sql params) with
  | ok bytes =>
      exact (submit_sends hb).mono (fun _ h => h) (fun _ _ h => ⟨own, bytes, ho, hb, h⟩)
        fun _ _ h => .inr ⟨own, bytes, ho, hb, h⟩
  | error e =>
      exact (submit_withheld hb).mono (fun _ h => h) (fun _ _ h => h.elim)
        fun _ d (h : d.sends = own) => .inl (h ▸ ho)

theorem execute_whole (sql : String) (params : List Value) :
    Ensures (·.sends = S) (execute sql params : Action (Logged σ) Submitted)
      (fun _ d => Whole (statementMessages sql params) S d.sends)
      (fun _ d => Opening S d.sends ∨ Whole (statementMessages sql params) S d.sends) := by
  have submitted {own : List Bytes} (ho : Opening S own) := submit_whole (σ := σ) sql params ho
  unfold execute
  refine Ensures.bind (Q := fun _ => (·.sends = S)) (ensureUsable_ensures.mono (fun _ h => h)
    (fun _ _ h => h.1) fun _ _ h => .inl (.inl h.1)) fun _ => ?_
  refine (ensureAccepted_keeps _ fun _ _ h => .inl (.inl h)).bind fun _ => ?_
  refine timedStatement_sends (P := (· = S)) (Q := fun _ => Whole _ S)
    (E := fun _ sends => Opening S sends ∨ Whole _ S sends) ?_
  refine Ensures.bind (Q := fun _ => (·.sends = S)) (((readings_sends S).drained
    (fun _ h _ => h) fun _ h _ => h).mono (fun _ h => h) (fun _ _ h => h)
    fun _ _ h => .inl (.inl h)) fun _ => ?_
  refine (ensureAccepted_keeps _ fun _ _ h => .inl (.inl h)).bind fun _ => ?_
  refine Ensures.get_bind fun d hd => ?_
  split
  · refine Ensures.of_eq hd (Ensures.bind (Q := fun _ => (·.sends = S ++ [beginning]))
      (begin_sends.mono (fun _ h => h) (fun _ _ h => h) fun _ _ h => .inl (.inr h)) fun _ => ?_)
    exact submitted (.inr rfl)
  · exact Ensures.of_eq hd (submitted (.inl rfl))

/-- The messages of a statement with parameters. -/
theorem statementMessages_params {params : List Value} (hp : params ≠ []) (sql : String) :
    statementMessages sql params = [.parse "" sql (params.map TypeOid.ofParam),
      .bind "" "" (params.map Value.toParam), .describe .portal "", .execute "" 0, .sync] := by
  unfold statementMessages
  rw [if_neg (by simpa using hp)]

/-- What goes out for a statement with parameters is read as it was sent exactly if a count can say
how many there are. -/
theorem statement_readAs_iff {sql : String} {params : List Value} (hp : params ≠ [])
    {bytes : Bytes}
    (hb : FrontendMessage.encodeAll (statementMessages sql params) = .ok bytes) :
    FrontendMessage.ReadAs bytes (statementMessages sql params) ↔ params.length ≤ 32767 := by
  rw [FrontendMessage.readAs_iff ?_ hb, statementMessages_params hp]
  · simp [FrontendMessage.entries]
  · simp [statementMessages_params hp, FrontendMessage.tag?]

/-- Parameters are delivered or withheld. Whatever the state of the connection and whatever its
channel does, a statement with parameters is handed to the channel in one piece, which is the last
thing that is; or it fails, and none of it is handed over. In front there is at most the beginning
of a transaction. From that piece the session takes exactly the statement with a type for each
parameter, the values in their order, and the requests to describe and run it and to synchronise,
if and only if there are at most 32767 parameters. -/
theorem parameters_delivered (c : Connection (Logged σ)) (sql : String) (params : List Value)
    (some : params ≠ []) :
    ∃ own, (own = [] ∨ own = [beginning]) ∧
      ((∃ e, (execute sql params c).1 = .error e) ∧
          (execute sql params c).2.sends = c.sends ++ own ∨
        ∃ bytes, (execute sql params c).2.sends = c.sends ++ own ++ [bytes] ∧
          (FrontendMessage.ReadAs bytes [.parse "" sql (params.map TypeOid.ofParam),
              .bind "" "" (params.map Value.toParam), .describe .portal "", .execute "" 0,
              .sync] ↔
            params.length ≤ 32767)) := by
  have opened {own : List Bytes} (ho : Opening c.sends own) :
      ∃ front, (front = [] ∨ front = [beginning]) ∧ own = c.sends ++ front := by
    rcases ho with rfl | rfl
    · exact ⟨[], .inl rfl, (List.append_nil _).symm⟩
    · exact ⟨[beginning], .inr rfl, rfl⟩
  have whole (h : Whole (statementMessages sql params) c.sends (execute sql params c).2.sends) :
      ∃ own, (own = [] ∨ own = [beginning]) ∧
        ∃ bytes, (execute sql params c).2.sends = c.sends ++ own ++ [bytes] ∧
          (FrontendMessage.ReadAs bytes (statementMessages sql params) ↔
            params.length ≤ 32767) := by
    obtain ⟨own, bytes, ho, hb, hs⟩ := h
    obtain ⟨front, hf, rfl⟩ := opened ho
    exact ⟨front, hf, bytes, hs, statement_readAs_iff some hb⟩
  rw [← statementMessages_params some]
  have sent := (execute_whole (σ := σ) sql params).run c rfl
  rcases hr : execute sql params c with ⟨e | submitted, d⟩
  · rw [hr] at sent whole
    rcases sent with ho | hw
    · obtain ⟨front, hf, hs⟩ := opened ho
      exact ⟨front, hf, .inl ⟨⟨e, rfl⟩, hs⟩⟩
    · obtain ⟨front, hf, piece⟩ := whole hw
      exact ⟨front, hf, .inr piece⟩
  · rw [hr] at sent whole
    obtain ⟨front, hf, piece⟩ := whole sent
    exact ⟨front, hf, .inr piece⟩

def onReady : Connection (Logged Script) :=
  (connect { autocommit := true } (Logged.untouched (Script.saying [.readyForQuery .idle]))).2

theorem parameters_delivered_number :
    let params : List Value := [.integer 7]
    params ≠ [] ∧ ∃ own, (own = [] ∨ own = [beginning]) ∧
      ((∃ e, (execute "SELECT ?1" params onReady).1 = .error e) ∧
          (execute "SELECT ?1" params onReady).2.sends = onReady.sends ++ own ∨
        ∃ bytes, (execute "SELECT ?1" params onReady).2.sends = onReady.sends ++ own ++ [bytes] ∧
          (FrontendMessage.ReadAs bytes [.parse "" "SELECT ?1" (params.map TypeOid.ofParam),
              .bind "" "" (params.map Value.toParam), .describe .portal "", .execute "" 0,
              .sync] ↔
            params.length ≤ 32767)) :=
  ⟨by decide, parameters_delivered onReady "SELECT ?1" [.integer 7] (by decide)⟩

/-! ## One parameter too many -/

/-- With autocommit and nothing left to drain, executing a statement is submitting it. -/
theorem AtEase.executes (h : c.AtEase) (ha : c.autocommit = true) (ht : c.transaction = .idle)
    (sql : String) (params : List Value) :
    execute sql params c =
      ((submit sql params c).1, (submit sql params c).2.started none) := by
  have usable : c.isUsable = true := isUsable_of_ready h.ready
  have accepted (kind : SqlKind) : ensureAccepted kind c = (.ok (), c) := by
    rw [ensureAccepted_apply, ht]
    simp
  unfold execute
  rw [admits usable, bind_apply, accepted]
  dsimp only
  rw [unlimited_apply h.unlimited, started_eq h.deadline, bind_apply, h.settles]
  dsimp only
  rw [bind_apply, accepted]
  dsimp only
  rw [bind_apply, get_apply]
  simp only [ha, Bool.not_true, Bool.false_eq_true, false_and, if_false]
  rfl

theorem nulls_encode {n : Nat} (hn : n ≠ 0) (hl : 4 * n + 16 ≤ Frame.maxBody) :
    ∃ bytes, FrontendMessage.encodeAll
      (statementMessages "SELECT 1" (List.replicate n .null)) = .ok bytes := by
  have nameless : Bytes.ofTerminated "" = .ok [0] := by decide +kernel
  have text : Bytes.ofTerminated "SELECT 1" =
      .ok [83, 69, 76, 69, 67, 84, 32, 49, 0] := by decide +kernel
  have null : (Bytes.ofNullable (Value.toParam .null)).length = 4 := rfl
  have fits {m : FrontendMessage} {tag : Char} {raw : Bytes} (ht : m.tag? = some tag)
      (hb : m.body = .ok raw) (hl : raw.length ≤ Frame.maxBody) :
      ∃ bytes, m.encode = .ok bytes := by
    obtain ⟨bytes, framed⟩ := Frame.exists_tagged.2 hl
    refine ⟨bytes, ?_⟩
    unfold FrontendMessage.encode
    rw [hb, ht]
    exact framed
  unfold FrontendMessage.encodeAll
  rw [exists_ok_map, exists_ok_mapM, statementMessages_params (by simpa using hn)]
  simp only [List.forall_mem_cons]
  refine ⟨fits rfl (by simp only [FrontendMessage.body, nameless, text]; rfl) ?_,
    fits rfl (by simp only [FrontendMessage.body, nameless]; rfl) ?_,
    fits rfl (by simp only [FrontendMessage.body, nameless]; rfl) (by decide),
    fits rfl (by simp only [FrontendMessage.body, nameless]; rfl) (by decide),
    fits rfl rfl (by decide), by simp⟩
  · simp [Bytes.length_ofWord32, Bytes.ofCount, Bytes.length_ofWord16]
    omega
  · simp [null, Bytes.ofCount, Bytes.length_ofWord16]
    omega

/-- More NULLs than a count can say are sent, and the session reads something else. -/
theorem nulls_cut_short {n : Nat} (hn : 32767 < n) (hl : 4 * n + 16 ≤ Frame.maxBody) :
    let nulls : List Value := List.replicate n .null
    ∃ bytes, (execute "SELECT 1" nulls onReady).2.sends = onReady.sends ++ [bytes] ∧
      ¬FrontendMessage.ReadAs bytes [.parse "" "SELECT 1" (nulls.map TypeOid.ofParam),
        .bind "" "" (nulls.map Value.toParam), .describe .portal "", .execute "" 0, .sync] := by
  intro nulls
  have some : nulls ≠ [] := by simp [nulls]; omega
  obtain ⟨bytes, hb⟩ := nulls_encode (by omega) hl
  refine ⟨bytes, ?_, ?_⟩
  · have ready : onReady.AtEase := ⟨by decide +kernel, by decide +kernel, by decide +kernel⟩
    rw [ready.executes (by decide +kernel) (by decide +kernel)]
    exact (submit_sends hb).state (s := onReady) rfl
  · rw [← statementMessages_params some, statement_readAs_iff some hb]
    simpa [nulls] using hn

theorem parameters_cut_short :
    let nulls : List Value := List.replicate 32768 .null
    ∃ bytes, (execute "SELECT 1" nulls onReady).2.sends = onReady.sends ++ [bytes] ∧
      ¬FrontendMessage.ReadAs bytes [.parse "" "SELECT 1" (nulls.map TypeOid.ofParam),
        .bind "" "" (nulls.map Value.toParam), .describe .portal "", .execute "" 0, .sync] :=
  nulls_cut_short (by decide) (by decide)

end Connection

end SqlWire
