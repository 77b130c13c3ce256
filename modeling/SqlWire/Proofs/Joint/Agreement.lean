import SqlWire.Proofs.Client.Invariants
import SqlWire.Proofs.Joint.Handshake

/-!
# The two ends of a connection fit together

Between any two operations, whatever they were and however the channel behaved, a connection
that is ready agrees with its session on the transaction. Over a faithful channel every answer
of the session fits the reader that the client has for it: the connection is given up only when
the session has ended the stream.
-/

namespace SqlWire

namespace Connection

section

variable {σ : Type} [Joined σ] {terms : Terms σ}

theorem inOrder_timeout {c : Connection σ} (limit : Option Duration)
    (hl : ∀ d, limit = some d → terms.limit d) (h : InOrder terms c) :
    InOrder terms { c with statementTimeout := limit } := by
  rcases h with ⟨s, h⟩ | ⟨e, h⟩ | h
  · exact (h.reset hl).inOrder
  · exact .inr (.inl ⟨e, h.status, h.lost, hl, h.limited.deadline⟩)
  · exact .inr (.inr h)

theorem inOrder_invariant (terms : Terms σ) :
    Invariant (fun limit => ∀ d, limit = some d → terms.limit d) (fun _ => True)
      (InOrder terms) where
  execute := execute_keeps
  nextRow id _ := nextRow_keeps id
  begin := begin_keeps
  commit := commit_keeps
  rollback := rollback_keeps
  ping := ping_keeps
  setAutocommit := setAutocommit_keeps
  close _ := close_inOrder
  setStatementTimeout _ := inOrder_timeout

end

end Connection

open Connection

def Terms.any (σ : Type) [Joined σ] : Terms σ where
  limit _ := True
  lost _ _ := True
  send _ := trivial
  bound _ := trivial
  expired _ _ := trivial
  closed _ _ := trivial
  failed _ _ := trivial

/-- Terms for a faithful channel, which lets its connection down only by ending the stream of a
session that is over. -/
def Terms.faithful (σ : Type) [Faithful σ] : Terms (Traced σ) where
  limit d := 0 < d.nanos
  lost e s := e = .endOfStream ∧ .closed ∈ s.delivered ∧ (Joined.loop s).session.Over
  send {bytes f s s'} h := by
    have hn := Faithful.send_none bytes s
    rw [h] at hn
    cases hn
  bound {d f s s'} h := by
    have hn := Faithful.bound_none d s
    rw [h] at hn
    cases hn
  expired {d start s} hd h := by
    rw [Faithful.now_eq, Faithful.now_eq] at h
    omega
  closed {s s'} _ h := by
    have hs : (Channel.receive s).1 = .closed := by rw [h]
    have hover := (Faithful.receive_closed hs).2
    refine ⟨rfl, ?_, ?_⟩
    · have hd := Traced.delivered_receive s
      rw [h] at hd
      rw [hd]
      simp
    · rw [Joined.loop_closed h]
      exact (Loopback.isOver_iff _).1 hover
  failed {f e s s'} hs h := by
    have hf : (Channel.receive s).1 = .failed f := by rw [h]
    obtain ⟨ho, hn⟩ := Faithful.receive_failed hf
    rw [(Loopback.isOver_iff _).2 (hs ho)] at hn
    cases hn

theorem opened_alone (config : ServerConfig) (processId secretKey : Int32) (engine : Engine) :
    (Session.opened config processId secretKey engine).Alone :=
  ⟨rfl, rfl, rfl, rfl⟩

/-- Whatever a caller does with a connection to a session, it stays in order. -/
theorem performAll_inOrder {σ : Type} [Joined σ] {options : ConnectOptions} {channel : σ}
    {config : ServerConfig} {processId secretKey : Int32} {engine : Engine}
    (operations : List Operation)
    (joined : Joined.loop channel =
      Loopback.toSession (Session.opened config processId secretKey engine)) :
    InOrder (Terms.any σ)
      (Desk.performAll { connection := (connect options channel).2 } operations).2.connection :=
  Desk.performAll_keeps (inOrder_invariant (Terms.any σ)) (fun _ => trivial) operations _
    (fun _ _ _ _ => trivial) (connect_inOrder (opened_alone config processId secretKey engine) rfl
      joined trivial fun _ _ => trivial)

/-- Whenever a connection to a session is ready, both agree on the transaction: it is active for
the client exactly if the session has one that is not aborted, it has failed for the client if
the session aborted it, and the session has none if the client has none. -/
theorem transaction_agrees {σ : Type} [Joined σ] (options : ConnectOptions) (channel : σ)
    (config : ServerConfig) (processId secretKey : Int32) (engine : Engine)
    (operations : List Operation)
    (joined : Joined.loop channel =
      Loopback.toSession (Session.opened config processId secretKey engine)) :
    let desk : Desk σ := { connection := (connect options channel).2 }
    let c := (desk.performAll operations).2.connection
    c.status = .ready →
      (c.transaction = .active ↔ c.peer.inTransaction = true ∧ c.peer.aborted = false) ∧
      (c.peer.aborted = true → c.transaction = .failed) ∧
      (c.transaction = .idle → c.peer.inTransaction = false) := by
  intro desk c hready
  obtain ⟨s, h⟩ := (performAll_inOrder operations joined).settled hready
  rw [h.hears.peer]
  exact ⟨h.agree.active, h.agree.failed, h.agree.idle⟩

def Loopback.accepting : Loopback :=
  toSession (Session.opened { databasePath := "db" } 1 2 { answers := [] })

theorem transaction_agrees_begun :
    let desk : Desk Loopback := { connection := (connect {} Loopback.accepting).2 }
    let c := (desk.performAll [.execute "BEGIN" []]).2.connection
    c.status = .ready ∧
      (c.transaction = .active ↔ c.peer.inTransaction = true ∧ c.peer.aborted = false) ∧
      (c.peer.aborted = true → c.transaction = .failed) ∧
      (c.transaction = .idle → c.peer.inTransaction = false) :=
  ⟨by decide +kernel, transaction_agrees {} Loopback.accepting _ 1 2 _ [.execute "BEGIN" []] rfl
    (by decide +kernel)⟩

inductive ConnectionRefused (options : ConnectOptions) : ClientError → Prop
  | passwordMissing (h : options.password = none) : ConnectionRefused options .passwordMissing
  | reported (report : Diagnostic) : ConnectionRefused options (.sessionRejected report)
  | unsendable {m : FrontendMessage} {w : WireError}
      (hm : m = .startup Protocol.version3 options.startupParams ∨
        ∃ text, options.password = some text ∧ m = .password text)
      (he : m.encode = .error w) : ConnectionRefused options (ClientError.ofWire w).ofHandshake
  | ended : ConnectionRefused options ClientError.endOfStream.ofHandshake

/-- If the connection was given up, then because the session ended the stream. -/
def BrokenByEnd {σ : Type} [Joined σ] (c : Connection (Traced σ)) : Prop :=
  c.status = .broken → .closed ∈ c.channel.delivered ∧ c.peer.Over

theorem brokenByEnd_of_inOrder {σ : Type} [Faithful σ] {c : Connection (Traced σ)}
    (h : InOrder (Terms.faithful σ) c) : BrokenByEnd c := by
  intro hbroken
  rcases h with ⟨s, h⟩ | ⟨e, h⟩ | h
  · have hu := h.usable
    simp [isUsable, hbroken] at hu
  · exact h.lost.2
  · rw [h] at hbroken
    cases hbroken

/-- Over a faithful channel every message of the session fits where the client reads it: no
connection is made only because the client was turned away, had no password or could not send
what it had to, or because the session ended the stream, and a connection is given up only
because the session ended the stream. That includes the rollback with which a close begins. -/
theorem conversation_fits {σ : Type} [Faithful σ] (options : ConnectOptions) (channel : σ)
    (config : ServerConfig) (processId secretKey : Int32) (engine : Engine)
    (operations : List Operation)
    (joined : Joined.loop channel =
      Loopback.toSession (Session.opened config processId secretKey engine))
    (connectTimeout : 0 < options.connectTimeout.nanos)
    (statementTimeout : ∀ d, options.statementTimeout = some d → 0 < d.nanos)
    (laterTimeouts : ∀ d, .setStatementTimeout (some d) ∈ operations → 0 < d.nanos) :
    let start := connect options (Traced.mk channel [])
    let c := (Desk.performAll { connection := start.2 } operations).2.connection
    (∀ e, start.1 = .error e → ConnectionRefused options e) ∧
      BrokenByEnd c ∧
      (c.status = .ready → BrokenByEnd (timedStatement (command "ROLLBACK") c).2) := by
  intro start c
  have alone := opened_alone config processId secretKey engine
  have hends : Ends (fun _ => Calm (Terms.faithful σ)) (fun e c => c.status = .closed ∧
      ∃ e' c', e = e'.ofHandshake ∧ Rejected (Terms.faithful σ) options e' c') start :=
    connect_ends alone rfl joined connectTimeout statementTimeout
  have hstart : InOrder (Terms.faithful σ) start.2 :=
    connect_inOrder alone rfl joined connectTimeout statementTimeout
  have hc : InOrder (Terms.faithful σ) c :=
    Desk.performAll_keeps (inOrder_invariant (Terms.faithful σ)) (fun _ => trivial) operations _
      (fun limit hl d hd => laterTimeouts d (hd ▸ hl)) hstart
  refine ⟨?_, brokenByEnd_of_inOrder hc, fun hready => ?_⟩
  · intro e he
    have hs : start = (.error e, start.2) := Prod.ext he rfl
    rw [hs] at hends
    obtain ⟨-, e', c', rfl, h⟩ := hends
    cases h with
    | passwordMissing h => exact .passwordMissing h
    | reported report => exact .reported report
    | unsendable hm hw => exact .unsendable hm hw
    | lost h =>
        rw [h.lost.1]
        exact .ended
  · exact brokenByEnd_of_inOrder ((timedCommand_keeps "ROLLBACK").state (hc.settled hready))

def Loopback.speechless : Loopback :=
  toSession (Session.opened { databasePath := "db" } 1 2
    { answers := [.affected 0 none, .error "\x00" none] })

theorem conversation_fits_speechless :
    let operations : List Operation :=
      [.openCursor "a", .executeOn "a" "SELECT 1" [], .fetch "a", .ping, .commit]
    let start := connect {} (Traced.mk Loopback.speechless [])
    let c := (Desk.performAll { connection := start.2 } operations).2.connection
    c.status = .broken ∧ (∀ e, start.1 = .error e → ConnectionRefused {} e) ∧ BrokenByEnd c ∧
      (c.status = .ready → BrokenByEnd (timedStatement (command "ROLLBACK") c).2) :=
  ⟨by decide +kernel, conversation_fits {} Loopback.speechless _ 1 2 _ _ rfl (by decide) (by simp)
    (by simp)⟩

end SqlWire
