import SqlWire.Client.Connection
import SqlWire.Proofs.Triples
import SqlWire.Proofs.Wire.Stream

/-!
# What reading does to a connection

Whatever the channel does, reading changes nothing of a connection but what it has read and what
the server said of itself: `Reads c ms c'` says that the connection came from `c` to `c'` by
reading the messages `ms`. If reading fails, the connection is given up.
-/

namespace SqlWire

/-- The channel delivered these bytes on its way from one state to the other. -/
inductive Channel.Delivers {σ : Type} [Channel σ] (s : σ) : Bytes → σ → Prop
  | refl : Delivers s [] s
  | bound {w : Bytes} {s' : σ} (limit : Option Duration) (h : Delivers s w s') :
      Delivers s w (Channel.bound limit s').2
  | now {w : Bytes} {s' : σ} (h : Delivers s w s') : Delivers s w (Channel.now s').2
  | chunk {w bytes : Bytes} {s' : σ} (h : Delivers s w s')
      (hr : (Channel.receive s').1 = .chunk bytes) :
      Delivers s (w ++ bytes) (Channel.receive s').2
  | ended {w : Bytes} {s' : σ} (h : Delivers s w s')
      (hr : ∀ bytes, (Channel.receive s').1 ≠ .chunk bytes) : Delivers s w (Channel.receive s').2

theorem Channel.Delivers.trans {σ : Type} [Channel σ] {s s' s'' : σ} {w w' : Bytes}
    (h : Delivers s w s') (h' : Delivers s' w' s'') : Delivers s (w ++ w') s'' := by
  induction h' with
  | refl => rwa [List.append_nil]
  | bound limit _ ih => exact .bound limit ih
  | now _ ih => exact .now ih
  | chunk _ hr ih =>
      rw [← List.append_assoc]
      exact .chunk ih hr
  | ended _ hr ih => exact .ended ih hr

namespace Connection

variable {σ : Type}

/-- Everything of a connection that reading leaves alone. -/
structure Alike (c c' : Connection σ) : Prop where
  transaction : c'.transaction = c.transaction
  autocommit : c'.autocommit = c.autocommit
  status : c'.status = c.status
  statementTimeout : c'.statementTimeout = c.statementTimeout
  backendKey : c'.backendKey = c.backendKey
  nextResult : c'.nextResult = c.nextResult
  deadline : c'.deadline = c.deadline

theorem Alike.refl (c : Connection σ) : Alike c c := ⟨rfl, rfl, rfl, rfl, rfl, rfl, rfl⟩

theorem Alike.trans {c c' c'' : Connection σ} (h : Alike c c') (h' : Alike c' c'') :
    Alike c c'' :=
  ⟨h'.transaction.trans h.transaction, h'.autocommit.trans h.autocommit,
    h'.status.trans h.status, h'.statementTimeout.trans h.statementTimeout,
    h'.backendKey.trans h.backendKey, h'.nextResult.trans h.nextResult,
    h'.deadline.trans h.deadline⟩

variable [Channel σ]

structure Reads (c : Connection σ) (ms : List BackendMessage) (c' : Connection σ) : Prop where
  frame : Alike c c'
  path : ∃ w read, Channel.Delivers c.channel w c'.channel ∧ c.buffer ++ w = read ++ c'.buffer ∧
    Spells read ms

def Breaks (c c' : Connection σ) : Prop :=
  ∃ c'', Alike c c'' ∧ (∃ w, Channel.Delivers c.channel w c''.channel) ∧ c' = c''.markBroken

theorem Reads.refl (c : Connection σ) : Reads c [] c :=
  ⟨Alike.refl c, [], [], .refl, by simp, .nil⟩

theorem Reads.trans {c c' c'' : Connection σ} {ms ns : List BackendMessage} (h : Reads c ms c')
    (h' : Reads c' ns c'') : Reads c (ms ++ ns) c'' := by
  obtain ⟨hf, w, read, hd, hr, hs⟩ := h
  obtain ⟨hf', w', read', hd', hr', hs'⟩ := h'
  refine ⟨hf.trans hf', w ++ w', read ++ read', hd.trans hd', ?_, hs.append hs'⟩
  rw [← List.append_assoc, hr, List.append_assoc, hr', List.append_assoc]

theorem Reads.breaks {c c' c'' : Connection σ} {ms : List BackendMessage} (h : Reads c ms c')
    (h' : Breaks c' c'') : Breaks c c'' := by
  obtain ⟨hf, w, _, hd, -⟩ := h
  obtain ⟨d, hf', ⟨w', hd'⟩, hb⟩ := h'
  exact ⟨d, hf.trans hf', ⟨w ++ w', hd.trans hd'⟩, hb⟩

theorem Reads.gives_up {c c' : Connection σ} {ms : List BackendMessage} (h : Reads c ms c') :
    Breaks c c'.markBroken := by
  obtain ⟨hf, w, _, hd, -⟩ := h
  exact ⟨c', hf, ⟨w, hd⟩, rfl⟩

theorem takeDelivery_reads (limit : Option Duration) (c : Connection σ) :
    Ensures (· = c) (takeDelivery limit) (fun _ => Reads c []) (fun _ => Breaks c) := by
  constructor
  intro c hc
  subst hc
  have hbound := Channel.Delivers.bound limit (.refl (s := c.channel))
  unfold takeDelivery
  rcases hb : Channel.bound limit c.channel with ⟨_ | f, channel⟩
  · rw [hb] at hbound
    dsimp only
    have hchunk {bytes : Bytes} (h : (Channel.receive channel).1 = .chunk bytes) := hbound.chunk h
    have hended := hbound.ended
    rcases hr : Channel.receive channel with ⟨bytes | _ | f, channel'⟩
    · rw [hr] at hchunk
      have hw := hchunk rfl
      rw [List.nil_append] at hw
      exact ⟨⟨rfl, rfl, rfl, rfl, rfl, rfl, rfl⟩, bytes, [], hw, rfl, .nil⟩
    · rw [hr] at hended
      exact ⟨{ c with channel := channel' }, ⟨rfl, rfl, rfl, rfl, rfl, rfl, rfl⟩,
        ⟨[], hended (by simp)⟩, rfl⟩
    · rw [hr] at hended
      exact ⟨{ c with channel := channel' }, ⟨rfl, rfl, rfl, rfl, rfl, rfl, rfl⟩,
        ⟨[], hended (by simp)⟩, rfl⟩
  · rw [hb] at hbound
    exact ⟨{ c with channel }, ⟨rfl, rfl, rfl, rfl, rfl, rfl, rfl⟩, ⟨[], hbound⟩, rfl⟩

theorem fill_reads (c : Connection σ) :
    Ensures (· = c) fill (fun _ => Reads c []) (fun _ => Breaks c) := by
  constructor
  intro c hc
  subst hc
  unfold fill
  cases hd : c.deadline with
  | none => exact (takeDelivery_reads none c).run c rfl
  | some d =>
      have hnow : Reads c [] { c with
          channel := (Channel.now c.channel).2
          deadline := some d } := by
        rw [← hd]
        exact ⟨⟨rfl, rfl, rfl, rfl, rfl, rfl, rfl⟩, [], [], .now .refl, by simp, .nil⟩
      dsimp only
      split
      · exact hnow.gives_up
      · refine ((takeDelivery_reads _ _).run _ rfl).mono ?_ ?_
        · exact fun _ c' h => hnow.trans h
        · exact fun _ c' h => hnow.breaks h

section

variable [Watched σ]

/-- A request is sent, or it has no form as bytes, or the connection is given up. -/
theorem send_ensures {I W L : Connection σ → Prop} (messages : List FrontendMessage)
    (refused : ∀ {c}, I c → L c)
    (sent : ∀ {c} bytes, I c → W { c with channel := (Channel.send bytes c.channel).2 })
    (dropped : ∀ {c}, W c → L c.markBroken) :
    Ensures I (send messages) (fun _ => W) (fun _ => L) := by
  constructor
  intro c hc
  unfold send
  cases FrontendMessage.encodeAll messages with
  | error e => exact refused hc
  | ok bytes =>
      have hs := sent bytes hc
      dsimp only
      rcases he : Channel.send bytes c.channel with ⟨_ | f, channel⟩
      · rw [he] at hs
        exact hs
      · rw [he] at hs
        exact dropped hs

theorem fill_unlimited {c : Connection σ} (hd : c.deadline = none) :
    fill c = takeDelivery none c := by
  unfold fill
  rw [hd]

theorem fill_limited {c : Connection σ} {limit : Deadline} (hd : c.deadline = some limit) :
    fill c = if limit.instant ≤ (Channel.now c.channel).1
      then breakWith (.timeout limit.allowed) { c with channel := (Channel.now c.channel).2 }
      else takeDelivery (some ⟨limit.instant - (Channel.now c.channel).1⟩)
        { c with channel := (Channel.now c.channel).2 } := by
  unfold fill
  rw [hd]

/-- What holds while deliveries are waited for, and does not ask about what was read, holds until
the next message. -/
theorem receive_ensures {W L : Connection σ → Prop}
    (fills : Ensures W fill (fun _ => W) (fun _ => L))
    (noted : ∀ {c} buffer parameters, W c → W { c with buffer, parameters })
    (dropped : ∀ {c}, W c → L c.markBroken) :
    Ensures W receive (fun _ => W) (fun _ => L) := by
  constructor
  intro c hc
  fun_induction receive c with
  | case1 c e hn => exact dropped hc
  | case2 c hn e c' hf => exact fills.error hc hf
  | case3 c hn c' hf ih => exact ih (fills.ok hc hf)
  | case4 c frame rest => exact dropped (noted rest c.parameters hc)
  | case5 c frame rest hn name value hd ih => exact ih (noted rest _ hc)
  | case6 c frame rest hn report hd ih => exact ih (noted rest c.parameters hc)
  | case7 c frame rest => exact noted rest c.parameters hc

end

/-- A message was taken off the front of what is buffered. -/
theorem Reads.front {c : Connection σ} {frame : Frame} {rest : Bytes} {m : BackendMessage}
    (hn : Frame.next c.buffer = .ok (some (frame, rest)))
    (hd : BackendMessage.decode frame = .ok m) (parameters : List (String × String)) :
    Reads c [m] { c with buffer := rest, parameters } := by
  obtain ⟨front, hb, hf⟩ := Frame.next_front hn
  refine ⟨⟨rfl, rfl, rfl, rfl, rfl, rfl, rfl⟩, [], front, .refl, ?_, .cons hf hd .nil⟩
  rw [List.append_nil, hb]

def Through (m : BackendMessage) (ms : List BackendMessage) : Prop :=
  ∃ asides, ms = asides ++ [m] ∧ (∀ a ∈ asides, a.isAside = true) ∧ m.isAside = false

/-- The connection reads up to the first message that is no aside, or it is given up. -/
theorem receive_reads (c : Connection σ) :
    Ensures (· = c) receive (fun m c' => ∃ ms, Through m ms ∧ Reads c ms c')
      (fun _ => Breaks c) := by
  constructor
  intro c hc
  subst hc
  have behind {c c' : Connection σ} {ms : List BackendMessage} (h : Reads c ms c')
      (hms : ∀ a ∈ ms, a.isAside = true) {r : Except ClientError BackendMessage × Connection σ}
      (hr : Ends (fun m c'' => ∃ ns, Through m ns ∧ Reads c' ns c'') (fun _ => Breaks c') r) :
      Ends (fun m c'' => ∃ ns, Through m ns ∧ Reads c ns c'') (fun _ => Breaks c) r := by
    refine hr.mono ?_ fun _ _ hb => h.breaks hb
    intro m c'' hc
    obtain ⟨ns, ⟨asides, rfl, hall, hm⟩, hns⟩ := hc
    exact ⟨_, ⟨ms ++ asides, (List.append_assoc _ _ _).symm,
      List.forall_mem_append.2 ⟨hms, hall⟩, hm⟩, h.trans hns⟩
  fun_induction receive c with
  | case1 c e hn => exact (Reads.refl c).gives_up
  | case2 c hn e c' hf => exact (fill_reads c).error rfl hf
  | case3 c hn c' hf ih => exact behind ((fill_reads c).ok rfl hf) (by simp) ih
  | case4 c frame rest hn e hd =>
      exact ⟨{ c with buffer := rest }, ⟨rfl, rfl, rfl, rfl, rfl, rfl, rfl⟩, ⟨[], .refl⟩, rfl⟩
  | case5 c frame rest hn name value hd ih =>
      exact behind (.front hn hd _) (by simp [BackendMessage.isAside]) ih
  | case6 c frame rest hn report hd ih =>
      exact behind (.front hn hd c.parameters) (by simp [BackendMessage.isAside]) ih
  | case7 c frame rest hn m hp hr hd =>
      refine ⟨[m], ⟨[], rfl, by simp, ?_⟩, .front hn hd c.parameters⟩
      cases m with
      | parameterStatus name value => exact absurd rfl (hp name value)
      | noticeResponse report => exact absurd rfl (hr report)
      | _ => rfl

/-- What a turn of a reader comes to: a state to go on from, or an action to end with. -/
def Turn.Comes {α β : Type} (I : α → Prop) (A : Action σ β → Prop) : Turn σ α β → Prop
  | .expect state => I state
  | .finish action => A action

omit [Channel σ] in
theorem Turn.Comes.mono {α β : Type} {I I' : α → Prop} {A A' : Action σ β → Prop}
    {turn : Turn σ α β} (h : turn.Comes I A) (hI : ∀ a, I a → I' a) (hA : ∀ x, A x → A' x) :
    turn.Comes I' A' := by
  cases turn with
  | expect a => exact hI a h
  | finish x => exact hA x h

/-- A reader goes on from what it has read, and comes to its end. -/
theorem converse_reads {α β : Type} {react : α → BackendMessage → Turn σ α β}
    {onFailure : ClientError → Action σ β} {Q : β → Connection σ → Prop}
    {E : ClientError → Connection σ → Prop} {I : α → List BackendMessage → Prop}
    {c : Connection σ}
    (hturn : ∀ a ms m ns, I a ms → Through m ns → (react a m).Comes (I · (ms ++ ns))
      fun action => Ensures (Reads c (ms ++ ns)) action Q E)
    (hfail : ∀ e, Ensures (Breaks c) (onFailure e) Q E) {a : α} {ms : List BackendMessage}
    (ha : I a ms) : Ensures (Reads c ms) (converse react onFailure a) Q E := by
  constructor
  intro d h
  fun_induction converse react onFailure a d generalizing ms with
  | case1 a d e d' hr => exact (hfail e).run d' (h.breaks ((receive_reads d).error rfl hr))
  | case2 a d m d' hr next hn ih =>
      obtain ⟨ns, hm, hd⟩ := (receive_reads d).ok rfl hr
      have ht := hturn a ms m ns ha hm
      rw [hn] at ht
      exact ih ht (h.trans hd)
  | case3 a d m d' hr action hn =>
      obtain ⟨ns, hm, hd⟩ := (receive_reads d).ok rfl hr
      have ht := hturn a ms m ns ha hm
      rw [hn] at ht
      exact Ensures.run ht d' (h.trans hd)

end Connection

end SqlWire
