import SqlWire.Proofs.Client.Readers
import SqlWire.Proofs.Client.Traced

/-!
# What the operations of a connection are made of

To the stream of a server's bytes every operation does the same few things: it reads an answer to
its end, reads up to the description of a result, reads from a result, gives the connection up or
closes it. A predicate is `Stable` if it outlasts each of these; then every operation keeps it.
-/

namespace SqlWire

theorem Traced.heard_delivers {σ : Type} [Channel σ] {s s' : Traced σ} {w : Bytes}
    (h : Channel.Delivers s w s') : s'.heard = s.heard ++ w := by
  have received (t : Traced σ) : (Channel.receive t).2.heard =
      t.heard ++ chunks [(Channel.receive t).1] := by
    unfold heard
    rw [delivered_receive, chunks_append]
  induction h with
  | refl => rw [List.append_nil]
  | bound limit _ ih => exact ih
  | now _ ih => exact ih
  | chunk _ hr ih => rw [received, hr, ih, chunks, chunks, List.append_nil, List.append_assoc]
  | @ended _ s' _ hr ih =>
      rw [received, ih]
      rcases hd : (Channel.receive s').1 with bytes | _ | f
      · exact absurd hd (hr bytes)
      · exact List.append_nil _
      · exact List.append_nil _

namespace Connection

section

variable {σ : Type}

def heard (c : Connection (Traced σ)) : Bytes :=
  c.channel.heard

/-- Nothing happened that bears on what the connection has read and has yet to read. -/
structure Same (c c' : Connection (Traced σ)) : Prop where
  heard : c'.heard = c.heard
  buffer : c'.buffer = c.buffer
  status : c'.status = c.status
  nextResult : c'.nextResult = c.nextResult

theorem Same.trans {c c' c'' : Connection (Traced σ)} (h : Same c c') (h' : Same c' c'') :
    Same c c'' :=
  ⟨h'.heard.trans h.heard, h'.buffer.trans h.buffer, h'.status.trans h.status,
    h'.nextResult.trans h.nextResult⟩

theorem Aside.same [Channel σ] {c c' : Connection (Traced σ)} (h : Aside c c') : Same c c' := by
  refine ⟨?_, h.buffer, h.status, h.nextResult⟩
  unfold Connection.heard
  rcases h.channel with hc | hc
  · rw [hc]
  · rw [hc]
    rfl

end

variable {σ : Type} [Channel σ] {pulled : Nat → Prop} {P : Connection (Traced σ) → Prop}
  {c : Connection (Traced σ)} {ms : List BackendMessage}

/-- The predicate outlasts all that operations are made of, if rows are read from some of the
results only. -/
structure Stable (pulled : Nat → Prop) (P : Connection (Traced σ) → Prop) : Prop where
  same : ∀ {c c'}, P c → Same c c' → P c'
  answered : ∀ {c c' ms}, P c → c.isUsable = true → Reads c ms c' → P { c' with status := .ready }
  opened : ∀ {c c' ms fields}, P c → c.isUsable = true →
    Reads c (ms ++ [.rowDescription fields]) c' → P { c' with
      status := .streaming c'.nextResult (fields.map Column.ofField)
      nextResult := c'.nextResult + 1 }
  pulling : ∀ {c c' ms id columns}, pulled id → P c → c.status = .streaming id columns →
    Reads c ms c' → P c'
  broken : ∀ {c c'}, P c → Breaks c c' → P c'
  closed : ∀ {c}, P c → P { c with status := .closed, buffer := [] }

def Usable (P : Connection (Traced σ) → Prop) (c : Connection (Traced σ)) : Prop :=
  P c ∧ c.isUsable = true

def Ready (P : Connection (Traced σ) → Prop) (c : Connection (Traced σ)) : Prop :=
  P c ∧ c.status = .ready

/-- How a statement was answered: with no rows, or with the description of a result. -/
inductive Opens (P : Connection (Traced σ) → Prop) : Submitted → Connection (Traced σ) → Prop
  | finished {c : Connection (Traced σ)} (tag : Option String) (h : Ready P c) :
      Opens P (.finished tag) c
  | rows {c c' c'' : Connection (Traced σ)} {ms : List BackendMessage}
      {fields : List FieldDescription} (h : Usable P c)
      (hr : Reads c (ms ++ [.rowDescription fields]) c')
      (hs : Same { c' with
        status := .streaming c'.nextResult (fields.map Column.ofField)
        nextResult := c'.nextResult + 1 } c'') :
      Opens P (.rows c'.nextResult (fields.map Column.ofField)) c''

def Amidst (I : Connection (Traced σ) → Prop) (c : Connection (Traced σ)) : Prop :=
  ∃ start ms, I start ∧ Reads start ms c

def Dropped (I : Connection (Traced σ) → Prop) (c : Connection (Traced σ)) : Prop :=
  ∃ start, I start ∧ Breaks start c

theorem Amidst.here {I : Connection (Traced σ) → Prop} (h : I c) : Amidst I c :=
  ⟨c, [], h, .refl c⟩

theorem receive_amidst {I : Connection (Traced σ) → Prop} :
    Ensures (Amidst I) receive (fun _ => Amidst I) (fun _ => Dropped I) := by
  refine Ensures.of_each fun c hc => ?_
  obtain ⟨start, ms, hI, hr⟩ := hc
  refine (receive_reads c).mono (fun _ h => h) ?_ fun _ _ hb => ⟨start, hI, hr.breaks hb⟩
  intro m c' h
  obtain ⟨ns, -, hn⟩ := h
  exact ⟨start, ms ++ ns, hI, hr.trans hn⟩

namespace Stable

section

variable (hP : Stable pulled P)
include hP

theorem usable_same {c c' : Connection (Traced σ)} (h : Usable P c) (hs : Same c c') :
    Usable P c' :=
  ⟨hP.same h.1 hs, (isUsable_of_status hs.status).trans h.2⟩

theorem ready_same {c c' : Connection (Traced σ)} (h : Ready P c) (hs : Same c c') : Ready P c' :=
  ⟨hP.same h.1 hs, hs.status.trans h.2⟩

theorem opens_same {submitted : Submitted} {c c' : Connection (Traced σ)} (h : Opens P submitted c)
    (hs : Same c c') : Opens P submitted c' := by
  cases h with
  | finished tag h => exact .finished tag (hP.ready_same h hs)
  | rows h hr hs' => exact .rows h hr (hs'.trans hs)

theorem of_opens {submitted : Submitted} (h : Opens P submitted c) : P c := by
  cases h with
  | finished tag h => exact h.1
  | rows h hr hs => exact hP.same (hP.opened h.1 h.2 hr) hs

theorem gives_up (h : P c) (e : ClientError) {β : Type} {Q : β → Connection (Traced σ) → Prop} :
    Ensures (Reads c ms) (breakWith e) Q (fun _ => P) :=
  ⟨fun _ hr => hP.broken h hr.gives_up⟩

theorem applies_ready (h : Usable P c) (status : TransactionStatus)
    {E : ClientError → Connection (Traced σ) → Prop} :
    Ensures (Reads c ms) (modify (applyReady status)) (fun _ => Ready P) E :=
  Ensures.modify fun _ hr => ⟨hP.same (hP.answered h.1 h.2 hr) ⟨rfl, rfl, rfl, rfl⟩, rfl⟩

theorem fails_transaction {E : ClientError → Connection (Traced σ) → Prop} :
    Ensures (Ready P) (modify failTransaction) (fun _ => Ready P) E :=
  Ensures.modify fun c h => hP.ready_same h (aside_failTransaction c).same

theorem send_keeps {I : Connection (Traced σ) → Prop}
    (hI : ∀ {c c'}, I c → Same c c' → I c') (hIP : ∀ c, I c → P c)
    (messages : List FrontendMessage) :
    Ensures I (send messages) (fun _ => I) (fun _ => P) :=
  send_ensures messages (hIP _) (fun _ h => hI h ⟨rfl, rfl, rfl, rfl⟩)
    fun h => hP.broken (hIP _ h) (Reads.refl _).gives_up

omit hP in
theorem timed_keeps {α : Type} {action : Action (Traced σ) α} {I : Connection (Traced σ) → Prop}
    {Q : α → Connection (Traced σ) → Prop} {E : ClientError → Connection (Traced σ) → Prop}
    (hI : ∀ {c c'}, I c → Same c c' → I c') (hQ : ∀ a {c c'}, Q a c → Same c c' → Q a c')
    (hE : ∀ e {c c'}, E e c → Same c c' → E e c') (h : Ensures I action Q E)
    (limit : Option Duration) : Ensures I (timed limit action) Q E := by
  refine timed_ensures (fun c hc => hI hc ?_) (h.mono (fun _ h => h)
    (fun a _ ha => hQ a ha ⟨rfl, rfl, rfl, rfl⟩) fun e _ he => hE e he ⟨rfl, rfl, rfl, rfl⟩)
  cases limit with
  | none => exact ⟨rfl, rfl, rfl, rfl⟩
  | some d => exact ⟨rfl, rfl, rfl, rfl⟩

theorem timedStatement_keeps {α : Type} {action : Action (Traced σ) α}
    {Q : α → Connection (Traced σ) → Prop} (hQ : ∀ a {c c'}, Q a c → Same c c' → Q a c')
    (h : Ensures (Usable P) action Q (fun _ => P)) :
    Ensures (Usable P) (timedStatement action) Q (fun _ => P) :=
  ⟨fun c hc => (timed_keeps hP.usable_same hQ (fun _ => hP.same) h c.statementTimeout).run c hc⟩

omit hP in
/-- A reader of an answer that nothing is kept of. -/
theorem converse_keeps {α β : Type} {react : α → BackendMessage → Turn (Traced σ) α β}
    {onFailure : ClientError → Action (Traced σ) β} {Q : β → Connection (Traced σ) → Prop} (a : α)
    (hturn : ∀ a ms m ns, Through m ns → (react a m).Comes (fun _ => True)
      fun action => Ensures (Reads c (ms ++ ns)) action Q (fun _ => P))
    (hfail : ∀ e, Ensures (Breaks c) (onFailure e) Q (fun _ => P)) :
    Ensures (· = c) (converse react onFailure a) Q (fun _ => P) := by
  refine Ensures.of_eq (Reads.refl c) (converse_reads (I := fun _ _ => True) ?_ hfail trivial)
  exact fun a ms m ns _ hm => hturn a ms m ns hm

/-- The readers of an answer do nothing that the predicate does not outlast. -/
theorem readings {I : Connection (Traced σ) → Prop} (hI : ∀ c, I c → Usable P c) :
    Readings (Amidst I) (fun _ => Amidst I) (Dropped I) (Ready P) P where
  receive := receive_amidst.mono (fun _ h => h) (fun _ _ h => by simpa using h) fun _ _ h => h
  applied status h := by
    obtain ⟨start, ms, hs, hr⟩ := h
    exact ⟨hP.same (hP.answered (hI start hs).1 (hI start hs).2 hr) ⟨rfl, rfl, rfl, rfl⟩, rfl⟩
  failed {c} h := hP.ready_same h (aside_failTransaction c).same
  weaken h := h.1
  lost h := by
    obtain ⟨start, hs, hb⟩ := h
    exact hP.broken (hI start hs).1 hb
  dropped h := by
    obtain ⟨start, ms, hs, hr⟩ := h
    exact hP.broken (hI start hs).1 hr.gives_up
  cut h := by
    rcases h with ⟨start, ms, hs, hr⟩ | ⟨start, hs, c, hf, hd, rfl⟩
    · exact hP.same (hP.broken (hI start hs).1 hr.gives_up) ⟨rfl, rfl, rfl, rfl⟩
    · rw [markBroken_markBroken]
      exact hP.same (hP.broken (hI start hs).1 ⟨c, hf, hd, rfl⟩) ⟨rfl, rfl, rfl, rfl⟩

theorem settle_keeps : Ensures (Usable P) settle (fun _ => Ready P) (fun _ => P) :=
  (hP.readings fun _ h => h).drained (fun _ h hs => ⟨h.1, ready_of_usable h.2 hs⟩)
    fun _ h _ => .here h

theorem command_keeps (sql : String) :
    Ensures (Ready P) (command sql) (fun _ => Ready P) (fun _ => P) := by
  refine (hP.send_keeps hP.ready_same (fun _ h => h.1) _).bind fun _ => ?_
  exact (hP.readings fun _ h => ⟨h.1, isUsable_of_ready h.2⟩).command.mono
    (fun _ h => .here h) (fun _ _ h => h) fun _ _ h => h

omit hP in
theorem openResult_opens (fields : List FieldDescription) (h : Usable P c) :
    Ensures (Reads c (ms ++ [.rowDescription fields])) (openResult fields) (Opens P)
      (fun _ => P) :=
  ⟨fun _ hr => .rows h hr ⟨rfl, rfl, rfl, rfl⟩⟩

theorem statement_opens :
    Ensures (Ready P) (converse statementTurn throw {}) (Opens P) (fun _ => P) := by
  refine Ensures.of_each fun c hc => ?_
  have hu : Usable P c := ⟨hc.1, isUsable_of_ready hc.2⟩
  refine converse_keeps ({} : Answer) (fun answer ms m ns hm => ?_)
    fun e => Ensures.throw fun _ hb => hP.broken hc.1 hb
  cases m with
  | parseComplete | bindComplete | noData | emptyQueryResponse | commandComplete | errorResponse =>
      exact trivial
  | rowDescription fields =>
      obtain ⟨asides, rfl, -, -⟩ := hm
      rw [← List.append_assoc]
      unfold statementTurn
      cases answer.error with
      | none => exact openResult_opens fields hu
      | some report => exact hP.gives_up hc.1 _
  | readyForQuery status =>
      refine (hP.applies_ready hu status).bind fun _ => ?_
      split
      · exact hP.fails_transaction.bind fun _ => Ensures.throw fun _ h => h.1
      · exact Ensures.pure fun _ h => .finished _ h
  | _ => exact hP.gives_up hc.1 _

theorem submit_opens (sql : String) (params : List Value) :
    Ensures (Ready P) (submit sql params) (Opens P) (fun _ => P) :=
  (hP.send_keeps hP.ready_same (fun _ h => h.1) _).bind fun _ => hP.statement_opens

theorem execute_opens (sql : String) (params : List Value) :
    Ensures P (execute sql params) (Opens P) (fun _ => P) := by
  unfold execute
  refine (ensureUsable_or fun _ h => h).bind fun _ => ?_
  refine (ensureAccepted_keeps _ fun _ _ h => h.1).bind fun _ =>
    hP.timedStatement_keeps (fun _ => hP.opens_same) ?_
  refine hP.settle_keeps.bind fun _ => (ensureAccepted_keeps _ fun _ _ h => h.1).bind fun _ => ?_
  refine Ensures.get_bind fun c hc => ?_
  split
  · exact Ensures.of_eq hc ((hP.command_keeps "BEGIN").bind fun _ => hP.submit_opens sql params)
  · exact Ensures.of_eq hc (hP.submit_opens sql params)

/-- Every operation is made of what the predicate outlasts. -/
theorem parts : Parts pulled P (Ready P) where
  weaken h := h.1
  ready h hs := ⟨h, hs⟩
  aside h ha := hP.same h ha.same
  aside_ready h ha := hP.ready_same h ha.same
  settle := hP.settle_keeps
  command sql _ := hP.command_keeps sql
  pull id columns hid := by
    have reads := hP.readings (I := fun c => P c ∧ c.status = .streaming id columns)
      fun c h => ⟨h.1, by simp [isUsable, h.2]⟩
    refine (reads.pull ?_ columns).mono (fun _ h => .here h) (fun _ _ h => h) fun _ _ h => h
    intro c h
    obtain ⟨start, ms, hs, hr⟩ := h
    exact hP.pulling hid hs.1 hs.2 hr
  any := hP.command_keeps
  statement sql params := (hP.submit_opens sql params).mono (fun _ h => h)
    (fun _ _ h => hP.of_opens h) fun _ _ h => h
  switch _ h := hP.same h ⟨rfl, rfl, rfl, rfl⟩
  terminate h _ := (hP.send_keeps hP.same (fun _ h => h) [.terminate]).state h
  shut h := hP.same (hP.closed h) ⟨rfl, rfl, rfl, rfl⟩

/-- Every operation keeps a stable predicate. -/
theorem invariant : Invariant (fun _ => True) pulled P :=
  hP.parts.invariant

theorem ready_reads {c' : Connection (Traced σ)} (h : Ready P c) (hr : Reads c ms c') :
    Ready P c' := by
  have hs : c'.status = .ready := hr.frame.status.trans h.2
  exact ⟨hP.same (hP.answered h.1 (isUsable_of_ready h.2) hr) ⟨rfl, rfl, hs, rfl⟩, hs⟩

theorem greets : Greets (Ready P) P where
  receive := Ensures.of_each fun _ hc => (receive_reads _).mono (fun _ h => h)
    (fun _ _ ⟨_, _, hr⟩ => hP.ready_reads hc hr) fun _ _ hb => hP.broken hc.1 hb
  keyed _ h := hP.ready_same h ⟨rfl, rfl, rfl, rfl⟩
  weaken h := h.1
  password _ := hP.send_keeps hP.ready_same (fun _ h => h.1) _

theorem connect_keeps (options : ConnectOptions) (channel : Traced σ)
    (h : P (fresh options channel)) : P (connect options channel).2 := by
  have greeted : Ensures (Ready P) (greet options) (fun _ => Ready P) (fun _ => P) :=
    hP.greets.greet (hP.send_keeps hP.ready_same (fun _ h => h.1) _)
  have fresh : Ready P ((fresh options channel).started (some options.connectTimeout)) :=
    hP.ready_same ⟨h, rfl⟩ (aside_started _ _).same
  have ends : Ends (fun _ => P) (fun _ => P) (connect options channel) :=
    connect_ensures fresh (greeted.mono (fun _ h => h)
      (fun _ _ h => hP.same h.1 ⟨rfl, rfl, rfl, rfl⟩)
      fun _ _ h => hP.invariant.close _ (hP.same h ⟨rfl, rfl, rfl, rfl⟩))
  exact ends.state

end

end Stable

end Connection

end SqlWire
