import SqlWire.Proofs.Joint.Listening

/-!
# Requests and their answers

A connection is settled with its session if it has read everything and both agree on the
transaction. Every request that it sends then is answered in full, and reading the answer leaves
the connection settled again, with the rows of a result before it, or let down by its channel.
-/

namespace SqlWire

open Session

structure Agree (transaction : TransactionState) (s : Session) : Prop where
  active : transaction = .active ↔ s.inTransaction = true ∧ s.aborted = false
  failed : s.aborted = true → transaction = .failed
  idle : transaction = .idle → s.inTransaction = false

theorem agree_status {s : Session} (h : s.Sound) : Agree (.ofStatus s.status) s := by
  have hs := h.inside
  cases ha : s.aborted <;> cases hi : s.inTransaction <;>
    constructor <;> simp_all [status, TransactionState.ofStatus]

/-- A session outside a healthy transaction may be taken for one whose transaction failed. -/
theorem agree_failed {s : Session} (h : s.status ≠ .inTransaction) : Agree .failed s := by
  cases ha : s.aborted <;> cases hi : s.inTransaction <;>
    constructor <;> simp_all [status]

namespace Connection

section

variable {σ : Type} [Joined σ] {terms : Terms σ} {s : Session} {old : ConnectionStatus}
  {c : Connection σ}

structure Settled (terms : Terms σ) (s : Session) (c : Connection σ) : Prop where
  hears : Hears terms s .ready [] c
  quiet : s.Quiet
  agree : Agree c.transaction s

theorem Settled.retold (h : Settled terms s c) {transaction : TransactionState}
    (ha : Agree transaction s) : Settled terms s { c with transaction } :=
  ⟨h.hears.reset h.hears.limited.statement, h.quiet, ha⟩

theorem Hears.buffer_nil (h : Hears terms s .ready [] c) : c.buffer = [] :=
  (List.append_eq_nil_iff.1 h.spells.eq_nil).1

theorem Hears.outbound_nil (h : Hears terms s .ready [] c) :
    (Joined.loop c.channel).outbound = [] :=
  (List.append_eq_nil_iff.1 h.spells.eq_nil).2

theorem sentSince_eq {s s' : Session} {new : List Outgoing} (h : s'.sent = new ++ s.sent) :
    Loopback.sentSince s.sent.length s' = new.reverse.flatMap Outgoing.bytes := by
  unfold Loopback.sentSince
  rw [h, List.length_append, Nat.add_sub_cancel, List.take_left]

theorem send_loop (bytes : Bytes) (l : Loopback) :
    (Loopback.send bytes l).2 =
      { session := (l.session.serve (l.inbound ++ bytes)).1
        inbound := (l.session.serve (l.inbound ++ bytes)).2
        outbound := l.outbound ++ Loopback.sentSince l.session.sent.length
          (l.session.serve (l.inbound ++ bytes)).1 } := rfl

def AwaitsSince (terms : Terms σ) (t s : Session) (status : ConnectionStatus) (p : Phase)
    (c : Connection σ) : Prop :=
  ∃ todo q, Says t todo s ∧ Hears terms s status todo c ∧ p.after todo = some q ∧ Closing q s

theorem AwaitsSince.awaits {t : Session} {p : Phase} (h : AwaitsSince terms t s old p c) :
    Awaits terms s old p c := by
  obtain ⟨todo, q, -, hc, hq⟩ := h
  exact ⟨todo, q, hc, hq⟩

/-- What a connection that read everything sends is answered, or it is not sent at all. -/
theorem send_awaits {P : Connection σ → Prop} {p : Phase} {messages : List FrontendMessage}
    (hover : ¬s.Over)
    (hserved : ∀ bytes, FrontendMessage.encodeAll messages = .ok bytes →
      Served p s (s.serve bytes)) :
    Ensures (fun c => Hears terms s .ready [] c ∧ P c) (send messages)
      (fun _ c => ∃ bytes, FrontendMessage.encodeAll messages = .ok bytes ∧
        AwaitsSince terms s (s.serve bytes).1 .ready p c)
      (fun e c => (∃ w, FrontendMessage.encodeAll messages = .error w ∧ e = .ofWire w ∧ P c) ∨
        Lost terms e c) := by
  constructor
  intro c hc
  obtain ⟨h, hp⟩ := hc
  unfold send
  cases he : FrontendMessage.encodeAll messages with
  | error w => exact .inl ⟨w, rfl, rfl, hp⟩
  | ok bytes =>
      dsimp only
      rcases hs : Channel.send bytes c.channel with ⟨_ | f, channel⟩
      · have hloop := Joined.loop_send hs
        have hpeer : (Joined.loop c.channel).session = s := h.peer
        have hin : (Joined.loop c.channel).inbound = [] := h.inbound.resolve_right hover
        rw [send_loop, hpeer, hin, List.nil_append, h.outbound_nil, List.nil_append] at hloop
        obtain ⟨⟨q, ⟨ms, ⟨new, hnew, hms⟩, hq⟩, hclosing⟩, hleft⟩ := hserved bytes he
        refine ⟨bytes, rfl, ms, q, ⟨new, hnew, hms⟩, ⟨h.status, h.usable,
          ⟨h.limited.statement, h.limited.deadline⟩, ?_, ?_, ?_⟩, hq, hclosing⟩
        · exact congrArg Loopback.session hloop
        · rw [hloop]
          exact hleft
        · rw [hloop, h.buffer_nil, List.nil_append]
          dsimp only
          rw [sentSince_eq hnew]
          exact hms
      · exact .inr (lost_markBroken h.usable ⟨h.limited.statement, h.limited.deadline⟩
          (terms.send hs))

/-- The connection is settled, or the rest of a result is before it. -/
def Standing (terms : Terms σ) (s : Session) (c : Connection σ) : Prop :=
  Settled terms s c ∨ ∃ id columns, c.status = .streaming id columns ∧
    Awaits terms s (.streaming id columns) (.rows columns.length) c

def Falters (terms : Terms σ) (s : Session) (c : Connection σ) : Prop :=
  Settled terms s c ∨ ∃ e, Lost terms e c

/-- After the message that says that the session is ready, nothing is left to be read. -/
theorem applyReady_settled {status : TransactionStatus} (h : Awaits terms s old (.ready status) c) :
    Settled terms s (c.applyReady status) ∧ s.status = status := by
  obtain ⟨todo, q, hc, hq, hclosing⟩ := h
  have htodo := Phase.after_ready hq
  subst htodo
  cases hq
  cases hclosing with
  | quiet hs hstatus =>
      refine ⟨⟨⟨rfl, rfl, ⟨hc.limited.statement, hc.limited.deadline⟩, hc.peer, hc.inbound,
        hc.spells⟩, hs, ?_⟩, hstatus⟩
      rw [← hstatus]
      exact agree_status hs.sound
  | ended ho hp => cases hp

theorem failTransaction_settled (h : Settled terms s c) (hs : s.status ≠ .inTransaction) :
    Settled terms s c.failTransaction := by
  unfold failTransaction
  split
  · exact h
  · exact h.retold (agree_failed hs)

structure Noting (error : Bool) (p : Phase) : Prop where
  answering : p.Answering
  failed : error = true ↔ p = .failed

theorem Noting.between : Noting false .between := ⟨trivial, by simp⟩

theorem Noting.opening : Noting false .opening := ⟨trivial, by simp⟩

theorem Noting.rows (width : Nat) : Noting false (.rows width) := ⟨trivial, by simp⟩

theorem Noting.reported : Noting true .failed := ⟨trivial, by simp⟩

theorem Noting.fine {error : Bool} {p : Phase} (h : Noting error p) (hp : p ≠ .failed) :
    error = false := by
  cases error with
  | false => rfl
  | true => exact absurd (h.failed.1 rfl) hp

/-- A session that reported an error and is ready is outside a healthy transaction. -/
theorem Noting.status {error : Bool} {p : Phase} (h : Noting error p) (he : error = true)
    {status : TransactionStatus} (hp : p = .failed → status ≠ .inTransaction) :
    status ≠ .inTransaction :=
  hp (h.failed.1 he)

structure Underway (error : Bool) (p : Phase) : Prop extends Noting error p where
  begun : p ≠ .opening

theorem Underway.between : Underway false .between := ⟨.between, by simp⟩

theorem Underway.rows (width : Nat) : Underway false (.rows width) := ⟨.rows width, by simp⟩

inductive Underway.Onward (error : Bool) : BackendMessage → Phase → Prop
  | empty {q : Phase} (h : Underway error q) : Onward error .emptyQueryResponse q
  | completed {q : Phase} (tag : String) (h : Underway error q) :
      Onward error (.commandComplete tag) q
  | described {q : Phase} (fields : List FieldDescription) (h : Underway error q) :
      Onward error (.rowDescription fields) q
  | row {q : Phase} (values : List (Option Bytes)) (h : Underway error q) :
      Onward error (.dataRow values) q
  | reported {q : Phase} (report : Diagnostic) (h : Underway true q) :
      Onward error (.errorResponse report) q
  | done (status : TransactionStatus) (hs : error = true → status ≠ .inTransaction) :
      Onward error (.readyForQuery status) (.ready status)

theorem Underway.onward {error : Bool} {p q : Phase} {m : BackendMessage} (h : Underway error p)
    (ha : p.Advance m q) : Onward error m q := by
  cases ha with
  | prepared => exact absurd rfl h.begun
  | empty hp =>
      have he := h.fine (by rcases hp with rfl | rfl <;> simp)
      subst he
      exact .empty .between
  | completed tag hp =>
      have he := h.fine hp
      subst he
      exact .completed tag .between
  | described fields hp =>
      have he := h.fine (by rcases hp with rfl | rfl <;> simp)
      subst he
      exact .described fields (.rows _)
  | row values => exact .row values h
  | reported report => exact .reported report ⟨.reported, by simp⟩
  | done status hp => exact .done status fun he => h.status he hp

theorem settleTurn_comes {error : Option Diagnostic} {p q : Phase} {m : BackendMessage}
    (h : Underway error.isSome p) (ha : p.Advance m q) :
    (settleTurn (σ := σ) error m).Comes (fun error => Underway error.isSome q)
      fun action => Ensures (Awaits terms s old q) action (fun _ => Settled terms s)
        (Lost terms) := by
  cases h.onward ha with
  | empty h | completed tag h | described fields h | row values h | reported report h => exact h
  | done status hs =>
      refine Ensures.bind (Q := fun _ c => Settled terms s c ∧ s.status = status)
        (Ensures.modify fun c hc => applyReady_settled hc) fun _ => ?_
      split
      · next he =>
          refine Ensures.modify ?_
          intro c hc
          obtain ⟨hc, rfl⟩ := hc
          exact failTransaction_settled hc (hs he)
      · exact Ensures.pure fun c hc => hc.1

/-- What is left of a result is read, and the connection is settled. -/
theorem settle_settled :
    Ensures (Standing terms s) settle (fun _ => Settled terms s) (Lost terms) := by
  unfold settle
  refine Ensures.get_bind fun c hc => ?_
  rcases hc with hc | ⟨id, columns, hstatus, hc⟩
  · rw [if_neg (by simp [isStreaming, hc.hears.status])]
    refine Ensures.pure ?_
    intro _ h
    subst h
    exact hc
  · rw [if_pos (by simp [isStreaming, hstatus])]
    refine Ensures.of_eq hc (converse_awaits
      (K := fun error p => Underway error.isSome p) (fun _ _ h => h.answering.open)
      (fun error p m q h hq ha => settleTurn_comes h (Phase.advance h.answering ha hq))
      (fun e => Ensures.throw fun _ h => h) (.rows _))

def asked (s : Session) (sql : String) : Session :=
  s.takeIn (.ok (.query sql))

/-- What comes of a command that fails: if its answer was read to the end, then an error was
reported in it. -/
inductive Declined (terms : Terms σ) (s : Session) (sql : String) (e : ClientError)
    (c : Connection σ) : Prop
  | unsent {w : WireError} (he : FrontendMessage.encodeAll [.query sql] = .error w)
      (h : Settled terms s c)
  | reported (h : Settled terms (asked s sql) c) (hr : Reported s (asked s sql))
      (report : Diagnostic) (he : e = .ofReport report)
  | lost {e' : ClientError} (h : Lost terms e' c)

/-- What the reader of the answer to a command knows: whether an error was reported, or will be,
in the answer as a whole. -/
structure Noted (told : Prop) (error : Bool) (todo : List BackendMessage) : Prop where
  iff : told ↔ error = true ∨ HasError todo

theorem Noted.next {told : Prop} {error : Bool} {m : BackendMessage} {rest : List BackendMessage}
    (h : Noted told error (m :: rest)) (hm : ∀ report, m ≠ .errorResponse report) :
    Noted told error rest :=
  ⟨h.iff.trans (or_congr Iff.rfl (hasError_cons hm))⟩

theorem Noted.reported {told : Prop} {error : Bool} {report : Diagnostic}
    {rest : List BackendMessage} (h : Noted told error (.errorResponse report :: rest)) :
    Noted told true rest :=
  ⟨h.iff.trans ⟨fun _ => .inl rfl, fun _ => .inr ⟨report, List.mem_cons_self⟩⟩⟩

theorem Received.noted {told : Prop} {error : Bool} {todo rest : List BackendMessage}
    {m : BackendMessage} (hm : Received todo m rest) (h : Noted told error todo) :
    Noted told error (m :: rest) := by
  obtain ⟨asides, rfl, hall, -⟩ := hm
  induction asides with
  | nil => exact h
  | cons a asides ih =>
      refine ih (h.next ?_) fun b hb => hall b (by simp [hb])
      intro report hr
      subst hr
      cases hall _ List.mem_cons_self

/-- The connection is settled, and takes the transaction to be as the session said last. -/
structure Told (terms : Terms σ) (s : Session) (c : Connection σ) : Prop
    extends Settled terms s c where
  said : c.transaction = .ofStatus s.status

theorem commandTurn_comes {told : Prop} {answer : Answer} {p q r : Phase} {m : BackendMessage}
    {rest : List BackendMessage} (h : Underway answer.error.isSome p) (ha : p.Advance m q)
    (hq : q.after rest = some r) (hclosing : Closing r s)
    (ht : Noted told answer.error.isSome (m :: rest)) :
    (commandTurn (σ := σ) answer m).Comes
      (fun answer => Underway answer.error.isSome q ∧ Noted told answer.error.isSome rest)
      fun action => Ensures (Hears terms s old rest) action (fun _ c => Told terms s c ∧ ¬told)
        (fun e c => Settled terms s c ∧ told ∧ ∃ report, e = .ofReport report) := by
  cases h.onward ha with
  | empty h | completed tag h | described fields h | row values h => exact ⟨h, ht.next (by simp)⟩
  | reported report h => exact ⟨h, ht.reported⟩
  | done status hs =>
      have hrest := Phase.after_ready hq
      subst hrest
      have applied (c : Connection σ) (hc : Hears terms s old [] c) :
          Told terms s (c.applyReady status) := by
        obtain ⟨h, hstatus⟩ := applyReady_settled ⟨[], r, hc, hq, hclosing⟩
        subst hstatus
        exact ⟨h, rfl⟩
      refine Ensures.bind (Q := fun _ => Told terms s) (Ensures.modify applied) fun _ => ?_
      have hend := (ht.next (by simp)).iff.trans (or_iff_left hasError_nil)
      cases he : answer.error with
      | none => exact Ensures.pure fun _ h => ⟨h, by simp [hend, he]⟩
      | some report =>
          exact Ensures.throw fun _ h => ⟨h.toSettled, by simp [hend, he], report, rfl⟩

theorem query_awaits (sql : String) (hs : s.Quiet) :
    Ensures (Settled terms s) (send [.query sql])
      (fun _ => AwaitsSince terms s (asked s sql) .ready .between)
      (Declined terms s sql) := by
  refine (send_awaits (P := Settled terms s) (p := .between) hs.not_over ?_).mono
    (fun c h => ⟨h.hears, h⟩) ?_ ?_
  · intro bytes he
    rw [FrontendMessage.encodeAll_singleton] at he
    exact query_served hs he
  · intro _ c hc
    obtain ⟨bytes, he, h⟩ := hc
    rw [FrontendMessage.encodeAll_singleton] at he
    rw [serve_query hs he] at h
    exact h
  · intro e c hc
    rcases hc with ⟨w, he, -, h⟩ | h
    · exact .unsent he h
    · exact .lost h

/-- A command gives something exactly if no error was reported in its answer. -/
theorem command_told (sql : String) :
    Ensures (Settled terms s) (command sql)
      (fun _ c => Told terms (asked s sql) c ∧ ¬Reported s (asked s sql))
      (Declined terms s sql) := by
  refine Ensures.of_each fun c hc => Ensures.of_eq hc ?_
  unfold command
  refine (query_awaits sql hc.quiet).bind fun _ => Ensures.of_each fun c hc => ?_
  obtain ⟨todo, r, hsaid, hc, hr, hclosing⟩ := hc
  have htold : Noted (Reported s (asked s sql)) false todo :=
    ⟨hsaid.reported_iff.trans (by simp)⟩
  refine Ensures.of_eq hc (converse_phases hclosing (K := fun answer p todo =>
    Underway answer.error.isSome p ∧ Noted (Reported s (asked s sql)) answer.error.isSome todo)
    (fun _ _ _ h => h.1.answering.open) ?_ (fun e => Ensures.throw fun _ h => .lost h)
    ⟨.between, htold⟩ hr)
  intro answer p todo m q rest hp hm hq hrest
  refine (commandTurn_comes hp.1 (Phase.advance hp.1.answering hm.plain hq) hrest hclosing
    (hm.noted hp.2)).mono (fun _ h => h) fun action h => h.mono (fun _ h => h) (fun _ _ h => h) ?_
  intro e c hc
  obtain ⟨h, ht, report, he⟩ := hc
  exact .reported h ht report he

theorem command_reported (sql : String) :
    Ensures (Settled terms s) (command sql)
      (fun _ c => Settled terms (asked s sql) c ∧ ¬Reported s (asked s sql))
      (Declined terms s sql) :=
  (command_told sql).mono (fun _ h => h) (fun _ _ h => ⟨h.1.toSettled, h.2⟩) fun _ _ h => h

theorem command_settled (sql : String) :
    Ensures (Settled terms s) (command sql) (fun _ => Settled terms (asked s sql))
      (Declined terms s sql) :=
  (command_reported sql).mono (fun _ h => h) (fun _ _ h => h.1) fun _ _ h => h

/-! ## Statements and rows -/

theorem openResult_standing (fields : List FieldDescription)
    {E : ClientError → Connection σ → Prop} :
    Ensures (Awaits terms s old (.rows fields.length)) (openResult fields)
      (fun _ => Standing terms s) E := by
  constructor
  intro c hc
  obtain ⟨todo, q, hc, hq⟩ := hc
  refine .inr ⟨c.nextResult, fields.map Column.ofField, rfl, todo, q, ?_, ?_⟩
  · exact ⟨rfl, rfl, ⟨hc.limited.statement, hc.limited.deadline⟩, hc.peer, hc.inbound, hc.spells⟩
  · rw [List.length_map]
    exact hq

/-- At the end of an answer the transaction has failed if an error was reported. -/
theorem answer_concludes {β : Type} {answer : Answer} {status : TransactionStatus}
    (hs : answer.error.isSome = true → status ≠ .inTransaction) (result : β) :
    Ensures (Awaits terms s old (.ready status))
      (do
        modify (applyReady status)
        match answer.error with
        | some report =>
          modify failTransaction
          throw (.ofReport report)
        | none => return result : Action σ β)
      (fun _ => Standing terms s) (fun _ => Falters terms s) := by
  refine Ensures.bind (Q := fun _ c => Settled terms s c ∧ s.status = status)
    (Ensures.modify fun c hc => applyReady_settled hc) fun _ => ?_
  cases he : answer.error with
  | none => exact Ensures.pure fun c hc => .inl hc.1
  | some report =>
      refine Ensures.bind (Q := fun _ => Settled terms s) (Ensures.modify fun c hc => ?_)
        fun _ => Ensures.throw fun _ h => .inl h
      obtain ⟨hc, hstatus⟩ := hc
      subst hstatus
      exact failTransaction_settled hc (hs (by rw [he]; rfl))

structure Rowless (error : Bool) (p : Phase) : Prop extends Noting error p where
  rowless : ∀ width, p ≠ .rows width

theorem statementTurn_comes {answer : Answer} {p q : Phase} {m : BackendMessage}
    (h : Rowless answer.error.isSome p) (ha : p.Advance m q) :
    (statementTurn (σ := σ) answer m).Comes (fun answer => Rowless answer.error.isSome q)
      fun action => Ensures (Awaits terms s old q) action (fun _ => Standing terms s)
        (fun _ => Falters terms s) := by
  have between {error : Bool} (he : error = false) : Rowless error .between := by
    subst he
    exact ⟨.between, by simp⟩
  cases ha with
  | prepared hm =>
      rcases hm with rfl | rfl | rfl <;> exact h
  | empty hp => exact between (h.fine (by rcases hp with rfl | rfl <;> simp))
  | completed tag hp => exact between (h.fine hp)
  | described fields hp =>
      have he : answer.error.isSome = false := h.fine (by rcases hp with rfl | rfl <;> simp)
      have he : answer.error = none := by simpa using he
      unfold statementTurn
      rw [he]
      exact openResult_standing fields
  | row => exact absurd rfl (h.rowless _)
  | reported => exact ⟨.reported, by simp⟩
  | done status hp => exact answer_concludes (fun he => h.status he hp) _

/-- The answer to a statement is read to its end, or up to the rows of its result. -/
theorem statement_standing {p : Phase} (hp : Rowless false p) :
    Ensures (Awaits terms s old p) (converse statementTurn throw {}) (fun _ => Standing terms s)
      (fun _ => Falters terms s) :=
  converse_awaits (K := fun answer p => Rowless answer.error.isSome p)
    (fun _ _ h => h.answering.open)
    (fun _ _ _ _ h hq ha => statementTurn_comes h (Phase.advance h.answering ha hq))
    (fun e => Ensures.throw fun _ h => .inr ⟨e, h⟩) hp

/-- What the reader of a row knows of the answer: the first result has not ended, or it has and
what follows is passed over. -/
structure Pulling (columns : List Column) (answer : Answer) (p : Phase) : Prop extends
    Underway answer.error.isSome p where
  within : (answer.tag.isSome || answer.error.isSome) = false → p = .rows columns.length

theorem takeRow_standing {id : Nat} {columns : List Column} {values : List (Option Bytes)}
    (hv : values.length = columns.length) {E : ClientError → Connection σ → Prop} :
    Ensures (Awaits terms s (.streaming id columns) (.rows columns.length)) (takeRow columns values)
      (fun _ => Standing terms s) E := by
  unfold takeRow
  rw [if_pos hv]
  refine Ensures.pure fun c hc => .inr ⟨id, columns, ?_, hc⟩
  obtain ⟨_, _, h, -⟩ := hc
  exact h.status

theorem pullTurn_comes {id : Nat} {columns : List Column} {answer : Answer} {p q : Phase}
    {m : BackendMessage} (h : Pulling columns answer p) (ha : p.Advance m q) :
    (pullTurn (σ := σ) columns answer m).Comes (fun answer => Pulling columns answer q)
      fun action => Ensures (Awaits terms s (.streaming id columns) q) action
        (fun _ => Standing terms s) (fun _ => Falters terms s) := by
  have onward := h.onward ha
  -- behind the end of the first result everything is passed over
  have passed (hended : (answer.tag.isSome || answer.error.isSome) = true)
      (hq : Underway answer.error.isSome q) : Pulling columns answer q :=
    ⟨hq, fun hn => by rw [hended] at hn; cases hn⟩
  cases onward with
  | empty hq | described fields hq =>
      cases hended : answer.tag.isSome || answer.error.isSome with
      | true =>
          simp only [pullTurn, hended]
          exact passed hended hq
      | false =>
          have hp := h.within hended
          subst hp
          cases ha
          simp_all
  | completed tag hq =>
      refine ⟨hq, fun hn => ?_⟩
      cases ht : answer.tag <;> simp [ht] at hn
  | row values hq =>
      cases hended : answer.tag.isSome || answer.error.isSome with
      | true =>
          simp only [pullTurn, hended]
          exact passed hended hq
      | false =>
          have hp := h.within hended
          subst hp
          cases ha with
          | row _ hv =>
              simp only [pullTurn, hended]
              exact takeRow_standing hv
  | reported report hq => exact ⟨hq, by simp⟩
  | done status hs => exact answer_concludes hs _

theorem Lost.retold {e : ClientError} (h : Lost terms e c) (transaction : TransactionState) :
    Lost terms e { c with transaction } :=
  ⟨h.status, h.lost, h.limited.statement, h.limited.deadline⟩

theorem failStream_lost {β : Type} {e : ClientError} {Q : β → Connection σ → Prop} :
    Ensures (Lost terms e) (failStream e) Q (fun _ => Lost terms e) := by
  constructor
  intro c h
  have hb : c.markBroken = c := if_neg (by simp [isUsable, h.status])
  change Lost terms e { c.markBroken with transaction := .failed }
  rw [hb]
  exact h.retold .failed

/-- A result is read up to its next row, or to the end of the answer. -/
theorem pull_standing {id : Nat} {columns : List Column} :
    Ensures (Awaits terms s (.streaming id columns) (.rows columns.length))
      (converse (pullTurn columns) failStream {}) (fun _ => Standing terms s)
      (fun _ => Falters terms s) :=
  converse_awaits (K := Pulling columns) (fun _ _ h => h.answering.open)
    (fun _ _ _ _ h hq ha => pullTurn_comes h (Phase.advance h.answering ha hq))
    (fun e => failStream_lost.mono (fun _ h => h) (fun _ _ h => h) fun _ _ h => .inr ⟨e, h⟩)
    ⟨.rows _, fun _ => rfl⟩

end

end Connection

end SqlWire
