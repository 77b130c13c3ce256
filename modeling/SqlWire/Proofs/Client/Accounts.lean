import SqlWire.Proofs.Client.Finality
import SqlWire.Proofs.Client.Pulling
import SqlWire.Proofs.Client.Rows

/-!
# What a connection knows of its transaction

A connection takes a transaction to be open only on the word of its server: it can be used then,
and the last time that the server said it was ready, it said that it was in a transaction. A
connection that was given up has no open transaction, and one that was closed has none at all.
-/

namespace SqlWire

def BackendMessage.status? : BackendMessage → Option TransactionStatus
  | readyForQuery status => some status
  | _ => none

def lastStatus? (ms : List BackendMessage) : Option TransactionStatus :=
  (ms.filterMap BackendMessage.status?).getLast?

section

variable {m : BackendMessage} {ms ns : List BackendMessage}

theorem BackendMessage.status_of_aside (h : m.isAside = true) : m.status? = none := by
  cases m with
  | parameterStatus | noticeResponse => rfl
  | _ => cases h

theorem BackendMessage.status_of_not_ready (h : m.isReady = false) : m.status? = none := by
  cases m with
  | readyForQuery => cases h
  | _ => rfl

/-- Of what is read up to a message that is no aside, only that message reports a status. -/
theorem Connection.Through.statuses (h : Connection.Through m ns) :
    ns.filterMap BackendMessage.status? = m.status?.toList := by
  obtain ⟨asides, rfl, ha, -⟩ := h
  have silent : asides.filterMap BackendMessage.status? = [] :=
    List.filterMap_eq_nil_iff.2 fun a h => BackendMessage.status_of_aside (ha a h)
  rw [List.filterMap_append, silent, List.nil_append]
  cases hm : m.status? with
  | none => simp [hm]
  | some status => simp [hm]

theorem lastStatus_through (h : Connection.Through m ns) :
    lastStatus? (ms ++ ns) = m.status?.or (lastStatus? ms) := by
  unfold lastStatus?
  rw [List.filterMap_append, h.statuses]
  cases m.status? with
  | none => simp
  | some status => simp

end

namespace Connection

section

variable {σ : Type}

/-- Everything that the connection has read is on record, and of the statuses that the server
reported the last one is as `last` says. -/
def LastStatus (last : Option TransactionStatus → Prop) (c : Connection (Traced σ)) : Prop :=
  ∃ read ms, c.heard = read ++ c.buffer ∧ Spells read ms ∧ last (lastStatus? ms)

/-- A connection that can be used knows what it has read, and has its open transaction from the
last status that was reported. Others have no open transaction. -/
structure Grounded (c : Connection (Traced σ)) : Prop where
  reported : c.isUsable = true →
    c.LastStatus fun last => c.transaction = .active → last = some .inTransaction
  usable : c.transaction = .active → c.isUsable = true

end

variable {σ : Type} [Channel σ] {c c' : Connection (Traced σ)} {ms : List BackendMessage}

omit [Channel σ] in
theorem LastStatus.mono {last last' : Option TransactionStatus → Prop} (h : c.LastStatus last)
    (hl : ∀ s, last s → last' s) : c.LastStatus last' := by
  obtain ⟨read, ms, hh, hs, hlast⟩ := h
  exact ⟨read, ms, hh, hs, hl _ hlast⟩

omit [Channel σ] in
theorem LastStatus.same {last : Option TransactionStatus → Prop} (h : c.LastStatus last)
    (hh : c'.heard = c.heard) (hb : c'.buffer = c.buffer) : c'.LastStatus last := by
  unfold LastStatus
  rw [hh, hb]
  exact h

theorem LastStatus.reads {last : Option TransactionStatus → Prop} {m : BackendMessage}
    (h : c.LastStatus last) (hm : Through m ms) (hr : Reads c ms c') :
    c'.LastStatus fun s => ∃ before, last before ∧ s = m.status?.or before := by
  obtain ⟨read, ns, hh, hs, hlast⟩ := h
  obtain ⟨more, hmore, hheard⟩ := hr.spelled hh
  exact ⟨read ++ more, ns ++ ms, hheard, hs.append hmore, _, hlast, lastStatus_through hm⟩

namespace Grounded

omit [Channel σ] in
/-- A connection that is of no more use is grounded if it has no open transaction. -/
theorem of_unusable (hu : c.isUsable = false) (ht : c.transaction ≠ .active) : Grounded c :=
  ⟨fun h => absurd (hu.symm.trans h) Bool.false_ne_true, fun h => absurd h ht⟩

omit [Channel σ] in
/-- What a connection changes of itself without taking a transaction to be open. -/
theorem within (h : Grounded c) (hh : c'.heard = c.heard) (hb : c'.buffer = c.buffer)
    (hs : c'.status = c.status)
    (ht : c'.transaction = c.transaction ∨ c'.transaction ≠ .active) : Grounded c' := by
  have active (ha : c'.transaction = .active) : c.transaction = .active := by
    rcases ht with ht | ht
    · exact ht.symm.trans ha
    · exact absurd ha ht
  refine ⟨fun hu => ?_, fun ha => ?_⟩
  · rw [isUsable_of_status hs] at hu
    exact ((h.reported hu).same hh hb).mono fun _ hl ha => hl (active ha)
  · exact (isUsable_of_status hs).trans (h.usable (active ha))

theorem aside (h : Grounded c) (ha : Aside c c') : Grounded c' :=
  h.within ha.same.heard ha.buffer ha.status ha.transaction

theorem dropped (h : c.transaction = .active → c.isUsable = true) : Grounded c.markBroken := by
  refine .of_unusable (markBroken_unusable c) ?_
  unfold markBroken
  split
  · dsimp only
    split
    · nofun
    · assumption
  · next hu => exact fun ha => hu (h ha)

theorem breaks (h : Grounded c) (hb : Breaks c c') : Grounded c' := by
  obtain ⟨d, frame, -, rfl⟩ := hb
  refine dropped fun ha => ?_
  rw [frame.transaction] at ha
  exact (isUsable_of_status frame.status).trans (h.usable ha)

end Grounded

theorem receive_grounded : Ensures (Usable Grounded) (receive (σ := Traced σ))
    (fun m c => if m.isReady then c.isUsable = true ∧ c.LastStatus (· = m.status?)
      else Usable Grounded c)
    (fun _ => Grounded) := by
  refine Ensures.of_each fun c hc => (receive_reads c).mono (fun _ h => h) ?_
    fun _ _ hb => hc.1.breaks hb
  intro m c' h
  obtain ⟨ms, hm, hr⟩ := h
  have usable : c'.isUsable = true := (isUsable_of_status hr.frame.status).trans hc.2
  have reported := (hc.1.reported hc.2).reads hm hr
  cases hready : m.isReady with
  | true =>
      refine ⟨usable, reported.mono fun last h => ?_⟩
      obtain ⟨before, -, rfl⟩ := h
      cases m with
      | readyForQuery status => rfl
      | _ => cases hready
  | false =>
      refine ⟨⟨fun _ => reported.mono fun last h ha => ?_, fun _ => usable⟩, usable⟩
      obtain ⟨before, hb, rfl⟩ := h
      rw [BackendMessage.status_of_not_ready hready, Option.none_or]
      exact hb (hr.frame.transaction.symm.trans ha)

/-- The server's word is where an open transaction comes from. -/
theorem applyReady_grounded (status : TransactionStatus)
    (h : c.LastStatus (· = (BackendMessage.readyForQuery status).status?)) :
    Ready Grounded (c.applyReady status) := by
  have reported : (c.applyReady status).LastStatus
      (· = (BackendMessage.readyForQuery status).status?) := h.same rfl rfl
  refine ⟨⟨fun _ => reported.mono fun last hl ha => ?_, fun _ => rfl⟩, rfl⟩
  rw [hl]
  cases status with
  | inTransaction => rfl
  | idle | failed => cases ha

/-- The readers of an answer take a transaction to be open if the answer ends with that status. -/
theorem readings_grounded : Readings (Usable (Grounded (σ := σ)))
    (fun m c => c.isUsable = true ∧ c.LastStatus (· = m.status?)) Grounded (Ready Grounded)
    Grounded where
  receive := receive_grounded
  applied status h := applyReady_grounded status h.2
  failed {c} h := ⟨h.1.aside (aside_failTransaction c),
    (aside_failTransaction c).status.trans h.2⟩
  weaken h := h.1
  lost h := h
  dropped h := .dropped h.1.usable
  cut {c} _ := .of_unusable (markBroken_unusable c) nofun

theorem send_grounded {I : Connection (Traced σ) → Prop} (hP : ∀ c, I c → Grounded c)
    (hI : ∀ c channel, I c → channel.heard = c.channel.heard → I { c with channel })
    (messages : List FrontendMessage) :
    Ensures I (send messages) (fun _ => I) (fun _ => Grounded) :=
  send_ensures messages (hP _) (fun _ h => hI _ _ h rfl) fun h => .dropped (hP _ h).usable

omit [Channel σ] in
theorem Grounded.moved (h : Grounded c) {channel : Traced σ}
    (hc : channel.heard = c.channel.heard) : Grounded { c with channel } :=
  h.within hc rfl rfl (.inl rfl)

theorem send_ready (messages : List FrontendMessage) :
    Ensures (Ready (Grounded (σ := σ))) (send messages) (fun _ => Usable Grounded)
      (fun _ => Grounded) :=
  (send_grounded (fun _ h => h.1) (fun _ _ h hc => ⟨h.1.moved hc, h.2⟩) messages).mono
    (fun _ h => ⟨h.1, isUsable_of_ready h.2⟩) (fun _ _ h => h) fun _ _ h => h

theorem parts_grounded : Parts (σ := Traced σ) (fun _ => True) Grounded (Ready Grounded) where
  weaken h := h.1
  ready h hs := ⟨h, hs⟩
  aside := .aside
  aside_ready h ha := ⟨h.1.aside ha, ha.status.trans h.2⟩
  settle := readings_grounded.drained (fun _ h hs => ⟨h.1, ready_of_usable h.2 hs⟩)
    fun _ h _ => h
  command sql _ := (send_ready _).bind fun _ => readings_grounded.command
  pull _ columns _ := (readings_grounded.pull (fun h => h.1) columns).mono
    (fun _ h => ⟨h.1, by simp [isUsable, h.2]⟩) (fun _ _ h => h) fun _ _ h => h
  any sql := (send_ready _).bind fun _ => readings_grounded.command
  statement sql params := (send_ready _).bind fun _ => readings_grounded.statement fun _ h =>
    ⟨fun _ => (h.1.reported h.2).same rfl rfl, fun _ => rfl⟩
  switch _ h := h.within rfl rfl rfl (.inl rfl)
  terminate h _ := (send_grounded (fun _ h => h) (fun _ _ h hc => h.moved hc) _).state h
  shut h := .of_unusable rfl nofun

/-! ## From the handshake to the end -/

structure Unbegun (c : Connection (Traced σ)) : Prop where
  status : c.status = .ready
  transaction : c.transaction = .idle
  reported : c.LastStatus fun _ => True

omit [Channel σ] in
theorem Unbegun.grounded (h : Unbegun c) : Grounded c :=
  ⟨fun _ => h.reported.mono fun _ _ ha => absurd (h.transaction.symm.trans ha) nofun,
    fun _ => isUsable_of_ready h.status⟩

theorem Unbegun.reads {m : BackendMessage} (h : Unbegun c) (hm : Through m ms)
    (hr : Reads c ms c') : Unbegun c' :=
  ⟨hr.frame.status.trans h.status, hr.frame.transaction.trans h.transaction,
    (h.reported.reads hm hr).mono fun _ _ => trivial⟩

theorem send_unbegun (messages : List FrontendMessage) :
    Ensures (Unbegun (σ := σ)) (send messages) (fun _ => Unbegun) (fun _ => Grounded) :=
  send_grounded (fun _ => Unbegun.grounded)
    (fun _ _ h hc => ⟨h.status, h.transaction, h.reported.same hc rfl⟩) messages

/-- What the server says while it is greeted, also that it is in a transaction, begins none. -/
theorem greets_unbegun : Greets (Unbegun (σ := σ)) Grounded where
  receive := Ensures.of_each fun c hc => (receive_reads c).mono (fun _ h => h)
    (fun _ _ ⟨_, hm, hr⟩ => hc.reads hm hr) fun _ _ hb => hc.grounded.breaks hb
  keyed _ h := ⟨h.status, h.transaction, h.reported.same rfl rfl⟩
  weaken := Unbegun.grounded
  password _ := send_unbegun _

def ClosedIdle (c : Connection (Traced σ)) : Prop :=
  c.status = .closed → c.transaction = .idle

theorem close_idle (h : ClosedIdle c) : ClosedIdle c.close := by
  unfold close
  split
  · exact h
  · exact fun _ => rfl

/-- An attempt to connect leaves a connection without a transaction, or a closed one. -/
theorem connect_grounded (options : ConnectOptions) (channel : σ) :
    Grounded (connect options (Traced.mk channel [])).2 ∧
      ClosedIdle (connect options (Traced.mk channel [])).2 := by
  let start := (fresh options (Traced.mk channel [])).started (some options.connectTimeout)
  have begun : Unbegun start := ⟨rfl, rfl, [], [], rfl, .nil, trivial⟩
  have greeted : Ensures (fun c => Unbegun c ∧ Alive start c) (greet options)
      (fun _ c => Unbegun c ∧ Alive start c) (fun _ c => Grounded c ∧ Stays start c) :=
    (greets_unbegun.greet (send_unbegun _)).and ((greets_uses start).greet (send_uses _))
  have ends : Ends (fun _ c => Grounded c ∧ ClosedIdle c) (fun _ c => Grounded c ∧ ClosedIdle c)
      (connect options (Traced.mk channel [])) := by
    refine connect_ensures ⟨begun, .refl start, rfl⟩ (greeted.mono (fun _ h => h)
      (fun _ c h => ?_) fun _ c h => ?_)
    · have untimed : Grounded { c with deadline := none } :=
        h.1.grounded.within rfl rfl rfl (.inl rfl)
      exact ⟨untimed, fun hs => absurd (h.1.status.symm.trans hs) nofun⟩
    · have untimed : Grounded { c with deadline := none } := h.1.within rfl rfl rfl (.inl rfl)
      have unclosed : ClosedIdle { c with deadline := none } := fun hs => nomatch h.2.closed hs
      exact ⟨parts_grounded.invariant.close _ untimed, close_idle unclosed⟩
  exact ends.state

/-- Closing a connection leaves it in no transaction, and no later call puts it into one. -/
theorem called_idle (call : Call) (c : Connection (Traced σ)) (h : ClosedIdle c) :
    ClosedIdle (c.called call) := by
  by_cases hcall : call = .close
  · subst hcall
    exact close_idle h
  intro hclosed
  have closed : c.status = .closed := (stays_called c hcall).closed hclosed
  have unusable : c.isUsable = false := by simp [isUsable, closed]
  have unmoved {α : Type} {f : Unit → Action (Traced σ) α} :
      (((ensureUsable : Action (Traced σ) Unit) >>= f) c).2.transaction = .idle := by
    rw [refuses unusable]
    exact h closed
  cases call with
  | execute | begin | commit | ping | setAutocommit => exact unmoved
  | nextRow id =>
      rw [called, nextRow_refuses unusable]
      exact h closed
  | rollback => exact rollback_idle c
  | close => exact absurd rfl hcall
  | setStatementTimeout => exact h closed

/-- What a connection says of its transaction is true. -/
structure Accounted (c : Connection (Traced σ)) : Prop where
  /-- An open transaction is one that the server reported when it was last ready. -/
  active : c.transaction = .active →
    c.isUsable = true ∧ c.LastStatus (· = some .inTransaction)
  broken : c.status = .broken → c.transaction = .idle ∨ c.transaction = .failed
  closed : c.status = .closed → c.transaction = .idle

omit [Channel σ] in
theorem Grounded.accounted (h : Grounded c) (hc : ClosedIdle c) : Accounted c := by
  refine ⟨fun ha => ?_, fun hs => ?_, hc⟩
  · have usable := h.usable ha
    exact ⟨usable, (h.reported usable).mono fun _ hl => hl ha⟩
  · cases ht : c.transaction with
    | idle => exact .inl rfl
    | failed => exact .inr rfl
    | active =>
        have usable := h.usable ht
        simp [isUsable, hs] at usable

end Connection

def Operation.rollsBack {σ : Type} (d : Desk σ) : Operation → Bool
  | .rollback => true
  | .rollbackScope scope | .dropScope scope => d.scopes.contains scope
  | _ => false

theorem Desk.rollsBack_idle {σ : Type} [Channel σ] {d : Desk σ} {operation : Operation}
    (h : operation.rollsBack d = true) :
    (d.perform operation).2.connection.transaction = .idle := by
  cases operation with
  | rollback =>
      rw [perform, run_connection]
      exact Connection.rollback_idle _
  | rollbackScope scope =>
      have held : d.scopes.contains scope = true := h
      rw [perform, endScope, if_pos held, run_connection]
      exact Connection.rollback_idle _
  | dropScope scope =>
      have held : d.scopes.contains scope = true := h
      rw [perform, if_pos held]
      exact Connection.rollback_idle _
  | _ => cases h

namespace Connection

/-- Whatever the server and the channel do, and whatever is done on a connection from the
handshake on, the connection says nothing false of its transaction, and no rollback leaves it in
one. -/
theorem transaction_accounted {σ : Type} [Channel σ] (options : ConnectOptions) (channel : σ)
    (operations : List Operation) :
    let made := connect options (Traced.mk channel [])
    let d := (Desk.performAll { connection := made.2 } operations).2
    Accounted d.connection ∧ Accounted d.leave ∧
      ∀ operation : Operation, operation.rollsBack d = true →
        (d.perform operation).2.connection.transaction = .idle := by
  intro made d
  let P (c : Connection (Traced σ)) : Prop := Grounded c ∧ ClosedIdle c
  have called (call : Call) (c : Connection (Traced σ)) (h : P c) : P (c.called call) :=
    ⟨parts_grounded.invariant.called (fun _ _ => trivial) (fun _ _ => trivial) h.1,
      called_idle call c h.2⟩
  have before : P d.connection :=
    Desk.performAll_called called operations { connection := made.2 }
      (connect_grounded options channel)
  have after : P d.leave := Desk.leave_called d (called .rollback) (called .close) before
  exact ⟨before.1.accounted before.2, after.1.accounted after.2,
    fun _ h => Desk.rollsBack_idle h⟩

def vanishing : Script :=
  Script.saying [.authenticationOk, .readyForQuery .idle, .commandComplete "BEGIN",
    .readyForQuery .inTransaction]

theorem transaction_accounted_begun :
    let made := connect { autocommit := true } (Traced.mk vanishing [])
    let d := (Desk.performAll { connection := made.2 } [.execute "BEGIN" []]).2
    d.connection.transaction = .active ∧ Operation.rollback.rollsBack d = true ∧
      (d.perform .rollback).2.connection.transaction = .idle := by
  intro made d
  have begun : d.connection.transaction = .active := by decide +kernel
  have held : Operation.rollback.rollsBack d = true := rfl
  have accounted := transaction_accounted { autocommit := true } vanishing [.execute "BEGIN" []]
  exact ⟨begun, held, accounted.2.2 .rollback held⟩

end Connection

end SqlWire
