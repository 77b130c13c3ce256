import SqlWire.Client.Startup
import SqlWire.Proofs.Client.Parts
import SqlWire.Proofs.Client.Reading

/-!
# The readers of an answer

One reader drains a result, one reads the answer to a command, one the answer to a statement, and
one the next row of a result. Whatever they are sent, they end in one of few ways: `Readings`
lists what has to be known of each, and what all four come to follows from it. `Greets` does the
same for the handshake, which reads a greeting and may have to give a password.
-/

namespace SqlWire

def BackendMessage.isReady : BackendMessage → Bool
  | .readyForQuery _ => true
  | _ => false

namespace Connection

section

variable {σ : Type} [Channel σ] [Watched σ] {α β : Type}

/-- While an answer is read, `W` holds; behind its last message, what `D` says for that message;
and where nothing more can be read, `L`. A connection that is ready again has `R`, and any
connection that is left has `P`. -/
structure Readings (W : Connection σ → Prop) (D : BackendMessage → Connection σ → Prop)
    (L R P : Connection σ → Prop) : Prop where
  receive : Ensures W receive (fun m c => if m.isReady then D m c else W c) (fun _ => L)
  applied : ∀ {c} status, D (.readyForQuery status) c → R (c.applyReady status)
  failed : ∀ {c}, R c → R c.failTransaction
  weaken : ∀ {c}, R c → P c
  lost : ∀ {c}, L c → P c
  dropped : ∀ {c}, W c → P c.markBroken
  cut : ∀ {c}, W c ∨ L c → P { c.markBroken with transaction := .failed }

omit [Channel σ] [Watched σ] in
def AfterPull (W R : Connection σ → Prop) : Pull → Connection σ → Prop
  | .row _, c => W c
  | .finished _, c => R c

namespace Readings

variable {W L R P : Connection σ → Prop} {D : BackendMessage → Connection σ → Prop}
  (hR : Readings W D L R P)
include hR

/-- A reader goes on while its answer goes on. -/
theorem reads {react : α → BackendMessage → Turn σ α β} {onFailure : ClientError → Action σ β}
    {Q : β → Connection σ → Prop}
    (hturn : ∀ a m, m.isReady = false → (react a m).Comes (fun _ => True)
      fun action => Ensures W action Q (fun _ => P))
    (hready : ∀ a reported, (react a (.readyForQuery reported)).Comes (fun _ => False)
      fun action => Ensures (D (.readyForQuery reported)) action Q (fun _ => P))
    (hfail : ∀ e, Ensures L (onFailure e) Q (fun _ => P)) (a : α) :
    Ensures W (converse react onFailure a) Q (fun _ => P) := by
  constructor
  intro d h
  fun_induction converse react onFailure a d with
  | case1 a d e d' hr => exact (hfail e).run d' (hR.receive.error h hr)
  | case2 a d m d' hr next hn ih =>
      have hd := hR.receive.ok h hr
      cases hm : m.isReady with
      | false =>
          rw [hm] at hd
          exact ih hd
      | true =>
          cases m with
          | readyForQuery reported =>
              have ht := hready a reported
              rw [hn] at ht
              exact ht.elim
          | _ => cases hm
  | case3 a d m d' hr action hn =>
      have hd := hR.receive.ok h hr
      cases hm : m.isReady with
      | false =>
          have ht := hturn a m hm
          rw [hn] at ht
          rw [hm] at hd
          exact Ensures.run ht d' hd
      | true =>
          rw [hm] at hd
          cases m with
          | readyForQuery reported =>
              have ht := hready a reported
              rw [hn] at ht
              exact Ensures.run ht d' hd
          | _ => cases hm

theorem ready (reported : TransactionStatus) {E : ClientError → Connection σ → Prop} :
    Ensures (D (.readyForQuery reported)) (modify (applyReady reported)) (fun _ => R) E :=
  Ensures.modify fun _ h => hR.applied reported h

theorem fails {E : ClientError → Connection σ → Prop} :
    Ensures R (modify failTransaction) (fun _ => R) E :=
  Ensures.modify fun _ h => hR.failed h

theorem throws {Q : β → Connection σ → Prop} (e : ClientError) :
    Ensures L (throw e : Action σ β) Q (fun _ => P) :=
  Ensures.throw fun _ h => hR.lost h

theorem surprised {Q : β → Connection σ → Prop} (m : BackendMessage) (place : String) :
    (surprised m place : Turn σ α β).Comes (fun _ => True)
      fun action => Ensures W action Q (fun _ => P) :=
  ⟨fun _ h => hR.dropped h⟩

theorem failsStream {I : Connection σ → Prop} {Q : β → Connection σ → Prop} (e : ClientError)
    (hI : ∀ c, I c → W c ∨ L c) : Ensures I (failStream e : Action σ β) Q (fun _ => P) :=
  ⟨fun c h => hR.cut (hI c h)⟩

theorem settle : Ensures W (converse settleTurn throw none) (fun _ => R) (fun _ => P) := by
  refine hR.reads ?_ ?_ hR.throws none
  · intro error m hm
    cases m with
    | rowDescription | dataRow | commandComplete | emptyQueryResponse | errorResponse =>
        exact trivial
    | readyForQuery => cases hm
    | _ => exact hR.surprised _ _
  · intro error reported
    refine (hR.ready reported).bind fun _ => ?_
    split
    · exact hR.fails
    · exact Ensures.pure fun _ h => h

/-- What is left of a result is read, if there is one. -/
theorem drained {I : Connection σ → Prop} (rest : ∀ c, I c → c.isStreaming = false → R c)
    (reading : ∀ c, I c → c.isStreaming = true → W c) :
    Ensures I Connection.settle (fun _ => R) (fun _ => P) := by
  unfold Connection.settle
  refine Ensures.get_bind fun c hc => ?_
  split
  · next hs => exact Ensures.of_eq (reading c hc hs) hR.settle
  · next hs => exact Ensures.of_eq (rest c hc (by simpa using hs)) (Ensures.pure fun _ h => h)

theorem command : Ensures W (converse commandTurn throw {}) (fun _ => R) (fun _ => P) := by
  refine hR.reads ?_ ?_ hR.throws ({} : Answer)
  · intro answer m hm
    cases m with
    | rowDescription | dataRow | commandComplete | emptyQueryResponse | errorResponse =>
        exact trivial
    | readyForQuery => cases hm
    | _ => exact hR.surprised _ _
  · intro answer reported
    refine (hR.ready reported).bind fun _ => ?_
    split
    · exact Ensures.throw fun _ h => hR.weaken h
    · exact Ensures.pure fun _ h => h

/-- The end of an answer, which tells of an error or does not. -/
theorem concluded {answer : Answer} {result : Action σ β} {Q : β → Connection σ → Prop}
    (reported : TransactionStatus) (hr : Ensures R result Q (fun _ => P)) :
    Ensures (D (.readyForQuery reported)) (do
      modify (applyReady reported)
      match answer.error with
      | some report =>
        modify failTransaction
        throw (.ofReport report)
      | none => result) Q (fun _ => P) := by
  refine (hR.ready reported).bind fun _ => ?_
  split
  · exact hR.fails.bind fun _ => Ensures.throw fun _ h => hR.weaken h
  · exact hr

/-- The columns of a result open it. -/
theorem statement (opened : ∀ {c} columns, W c →
      P { c.become (.streaming c.nextResult columns) with nextResult := c.nextResult + 1 }) :
    Ensures W (converse statementTurn throw {}) (fun _ => P) (fun _ => P) := by
  refine hR.reads ?_ ?_ hR.throws ({} : Answer)
  · intro answer m hm
    cases m with
    | parseComplete | bindComplete | noData | emptyQueryResponse | commandComplete
    | errorResponse => exact trivial
    | readyForQuery => cases hm
    | rowDescription fields =>
        unfold statementTurn
        cases answer.error with
        | none => exact ⟨fun _ h => opened _ h⟩
        | some report => exact hR.surprised _ _
    | _ => exact hR.surprised _ _
  · exact fun answer reported => hR.concluded reported (Ensures.pure fun _ h => hR.weaken h)

/-- A row is handed out while the answer goes on, and the end once the server is ready. -/
theorem pulls (columns : List Column) :
    Ensures W (converse (pullTurn columns) failStream {}) (AfterPull W R) (fun _ => P) := by
  have failing {Q : Pull → Connection σ → Prop} (e : ClientError) :
      Ensures W (failStream e) Q (fun _ => P) := hR.failsStream e fun _ h => .inl h
  refine hR.reads ?_ ?_ (fun e => hR.failsStream e fun _ h => .inr h) ({} : Answer)
  · intro answer m hm
    cases m with
    | commandComplete | errorResponse => exact trivial
    | readyForQuery => cases hm
    | dataRow values =>
        unfold pullTurn
        dsimp only
        split
        · exact trivial
        · unfold takeRow
          split
          · exact Ensures.pure fun _ h => h
          · exact failing _
    | rowDescription | emptyQueryResponse =>
        unfold pullTurn
        dsimp only
        split
        · exact trivial
        · exact failing _
    | _ => exact failing _
  · exact fun answer reported => hR.concluded reported (Ensures.pure fun _ h => h)

theorem pull (given : ∀ {c}, W c → P c) (columns : List Column) :
    Ensures W (converse (pullTurn columns) failStream {}) (fun _ => P) (fun _ => P) :=
  (hR.pulls columns).mono (fun _ h => h)
    (fun pull _ h => match pull with
      | .row _ => given h
      | .finished _ => hR.weaken h) fun _ _ h => h

end Readings

/-- What comes of the greetings comes of the attempt to connect. If it fails, the connection that
is left is closed. -/
theorem connect_ensures {I Q : Connection σ → Prop} {E : ClientError → Connection σ → Prop}
    {options : ConnectOptions} {channel : σ}
    (fresh : I ((fresh options channel).started (some options.connectTimeout)))
    (greeted : Ensures I (greet options) (fun _ c => Q { c with deadline := none })
      fun e c => E e.ofHandshake (close { c with deadline := none })) :
    Ends (fun _ => Q) E (connect options channel) := by
  have ends := greeted.run _ fresh
  unfold connect
  rw [timed_apply]
  rcases hg : greet options ((Connection.fresh options channel).started
    (some options.connectTimeout)) with ⟨e | u, c⟩
  · rw [hg] at ends
    exact ends
  · rw [hg] at ends
    exact ends

structure Greets (W P : Connection σ → Prop) : Prop where
  receive : Ensures W receive (fun _ => W) (fun _ => P)
  keyed : ∀ {c} key, W c → W { c with backendKey := key }
  weaken : ∀ {c}, W c → P c
  password : ∀ text, Ensures W (send [.password text]) (fun _ => W) (fun _ => P)

namespace Greets

variable {W P : Connection σ → Prop} (hW : Greets W P)
include hW

theorem greeting : Ensures W (converse greetingTurn throw none) (fun _ => W) (fun _ => P) := by
  have kept (key : Option BackendKey) (g : Greeting) :
      Ensures W (do modify (keepKey key); return g : Action σ Greeting) (fun _ => W)
        (fun _ => P) :=
    Ensures.bind (Q := fun _ => W) (Ensures.modify fun _ h => hW.keyed _ h)
      fun _ => Ensures.pure fun _ h => h
  have comes (key : Option BackendKey) (m : BackendMessage) :
      (greetingTurn (σ := σ) key m).Comes (fun _ => True)
        fun action => Ensures W action (fun _ => W) (fun _ => P) := by
    cases m with
    | authenticationOk | backendKeyData => exact trivial
    | authenticationCleartextPassword | readyForQuery => exact kept key _
    | _ => exact Ensures.throw fun _ h => hW.weaken h
  constructor
  intro c h
  generalize (none : Option BackendKey) = key
  fun_induction converse greetingTurn throw key c with
  | case1 key c e c' hr => exact hW.receive.error h hr
  | case2 key c m c' hr next hn ih => exact ih (hW.receive.ok h hr)
  | case3 key c m c' hr action hn =>
      have ht := comes key m
      rw [hn] at ht
      exact Ensures.run ht c' (hW.receive.ok h hr)

theorem authenticate (password : Option String) (times : Nat) :
    Ensures W (authenticate password times) (fun _ => W) (fun _ => P) := by
  induction times with
  | zero => exact Ensures.throw fun _ h => hW.weaken h
  | succ times ih =>
      refine hW.greeting.bind fun greeting => ?_
      cases greeting with
      | begin => exact Ensures.pure fun _ h => h
      | givePassword =>
          cases password with
          | none => exact Ensures.throw fun _ h => hW.weaken h
          | some text => exact (hW.password text).bind fun _ => ih

/-- A client that could name itself comes as far as `W`, or there is no connection. -/
theorem greet {I : Connection σ → Prop} {options : ConnectOptions}
    (named : Ensures I (send [.startup Protocol.version3 options.startupParams]) (fun _ => W)
      (fun _ => P)) : Ensures I (greet options) (fun _ => W) (fun _ => P) :=
  named.bind fun _ => Ensures.get_bind fun _ h => Ensures.of_eq h (hW.authenticate _ _)

/-- A connection that was made is as the greetings leave it. -/
theorem connected {I : Connection σ → Prop} {options : ConnectOptions} {channel : σ}
    (fresh : I ((fresh options channel).started (some options.connectTimeout)))
    (named : Ensures I (send [.startup Protocol.version3 options.startupParams]) (fun _ => W)
      (fun _ => P)) (untimed : ∀ c, W c → W { c with deadline := none })
    (h : (connect options channel).1 = .ok ()) : W (connect options channel).2 := by
  have ends : Ends (fun _ => W) (fun _ _ => True) (connect options channel) :=
    connect_ensures fresh ((hW.greet named).mono (fun _ h => h) (fun _ => untimed)
      fun _ _ _ => trivial)
  exact ends.ok h

end Greets

end

section

variable {σ : Type}

def IsIdle (c : Connection σ) : Prop :=
  c.transaction = .idle

variable [Channel σ] {c c' : Connection σ}

theorem isIdle_markBroken (h : IsIdle c) : IsIdle c.markBroken := by
  have h : c.transaction = .idle := h
  unfold markBroken
  split
  · simp [IsIdle, h]
  · exact h

theorem isIdle_breaks (h : Breaks c c') (hi : IsIdle c) : IsIdle c' := by
  obtain ⟨c'', hf, -, rfl⟩ := h
  exact isIdle_markBroken (hf.transaction.trans hi)

theorem isIdle_send (messages : List FrontendMessage) :
    Ensures IsIdle (send messages : Action σ Unit) (fun _ => IsIdle) (fun _ => IsIdle) :=
  send_ensures messages (fun h => h) (fun _ h => h) isIdle_markBroken

/-- While client and server greet each other there is no transaction. -/
theorem greets_idle : Greets (σ := σ) IsIdle IsIdle where
  receive := Ensures.of_each fun c hc => (receive_reads c).mono (fun _ h => h)
    (fun _ _ ⟨_, _, hr⟩ => hr.frame.transaction.trans hc) fun _ _ hb => isIdle_breaks hb hc
  keyed _ h := h
  weaken h := h
  password _ := isIdle_send _

end

end Connection

end SqlWire
