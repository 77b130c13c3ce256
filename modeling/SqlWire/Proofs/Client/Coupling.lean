import SqlWire.Proofs.Client.Parts
import SqlWire.Proofs.Coupled

/-!
# Two connections side by side

A relation between two connections, over channels that may differ, is a `Coupling` if sending and
reading keep it and give the same results. Then every operation gives the same results on both and
keeps it.
-/

namespace SqlWire.Connection

variable {σ τ : Type} {α β : Type}

/-- The connections are the same to see from outside, but for what their servers said of
themselves. -/
structure SameFace (c : Connection σ) (c' : Connection τ) : Prop where
  transaction : c'.transaction = c.transaction
  autocommit : c'.autocommit = c.autocommit
  status : c'.status = c.status
  statementTimeout : c'.statementTimeout = c.statementTimeout
  backendKey : c'.backendKey = c.backendKey
  nextResult : c'.nextResult = c.nextResult

structure Within (c d : Connection σ) : Prop where
  channel : d.channel = c.channel
  buffer : d.buffer = c.buffer
  parameters : d.parameters = c.parameters
  deadline : d.deadline = c.deadline
  statementTimeout : d.statementTimeout = c.statementTimeout
  usable : d.isUsable = true → c.isUsable = true

def Live (R : Connection σ → Connection τ → Prop) (c : Connection σ) (c' : Connection τ) : Prop :=
  R c c' ∧ c.isUsable = true

section

variable {c : Connection σ} {c' : Connection τ}

theorem SameFace.isUsable (h : SameFace c c') : c'.isUsable = c.isUsable := by
  unfold Connection.isUsable
  rw [h.status]

theorem SameFace.isStreaming (h : SameFace c c') : c'.isStreaming = c.isStreaming := by
  unfold Connection.isStreaming
  rw [h.status]

inductive Turn.Paired (A : Action σ β → Action τ β → Prop) : Turn σ α β → Turn τ α β → Prop
  | expect (state : α) : Paired A (.expect state) (.expect state)
  | finish {x : Action σ β} {y : Action τ β} (h : A x y) : Paired A (.finish x) (.finish y)

end

variable [Channel σ] [Channel τ]

theorem SameFace.markBroken {c : Connection σ} {c' : Connection τ} (h : SameFace c c') :
    SameFace c.markBroken c'.markBroken := by
  unfold Connection.markBroken
  rw [h.isUsable]
  cases c.isUsable with
  | true =>
      rw [if_pos rfl, if_pos rfl]
      refine { h with transaction := ?_, status := rfl }
      dsimp only
      rw [h.transaction]
  | false => exact h

theorem converse_eq (react : α → BackendMessage → Turn σ α β)
    (onFailure : ClientError → Action σ β) (state : α) (c : Connection σ) :
    converse react onFailure state c = match receive c with
      | (.error e, d) => onFailure e d
      | (.ok m, d) => match react state m with
        | .expect next => converse react onFailure next d
        | .finish action => action d := by
  rw [converse]
  split
  · next h => rw [h]
  · next m d h =>
      cases hm : react state m with
      | expect next => simp only [h, hm]
      | finish action => simp only [h, hm]

/-- Two readers go on alike while they read alike. -/
theorem converse_coupled {late : Connection σ → Prop} {late' : Connection τ → Prop}
    {react : α → BackendMessage → Turn σ α β} {react' : α → BackendMessage → Turn τ α β}
    {onFailure : ClientError → Action σ β} {onFailure' : ClientError → Action τ β}
    {I F : Connection σ → Connection τ → Prop} {Q : β → Connection σ → Connection τ → Prop}
    {E : ClientError → Connection σ → Connection τ → Prop}
    (hreceive : Coupled late late' I receive receive (fun _ => I) (fun _ => F))
    (hturn : ∀ a m, Turn.Paired (fun x y => Coupled late late' I x y Q E) (react a m) (react' a m))
    (hfail : ∀ e, Coupled late late' F (onFailure e) (onFailure' e) Q E)
    (hlate : ∀ e c, late c → ∃ e' d, onFailure e c = (.error e', d) ∧ late d)
    (hlate' : ∀ e c, late' c → ∃ e' d, onFailure' e c = (.error e', d) ∧ late' d) (a : α) :
    Coupled late late' I (converse react onFailure a) (converse react' onFailure' a) Q E := by
  constructor
  intro c c' h
  -- Both read at once, so it is enough that the first runs out of what it has at hand.
  induction hn : c.backlog using Nat.strongRecOn generalizing a c c' with
  | ind n ih =>
      have hr := hreceive.run c c' h
      rw [converse_eq react, converse_eq react']
      generalize hd : receive c = r at hr ⊢
      generalize receive c' = r' at hr ⊢
      cases hr with
      | error h => exact (hfail _).run _ _ h
      | @first e d _ h =>
          obtain ⟨e', d', he, hl⟩ := hlate e d h
          dsimp only
          rw [he]
          exact .first hl
      | @second _ e d h =>
          obtain ⟨e', d', he, hl⟩ := hlate' e d h
          dsimp only
          rw [he]
          exact .second hl
      | @ok m d d' h =>
          have ht := hturn a m
          dsimp only
          generalize react a m = turn at ht ⊢
          generalize react' a m = turn' at ht ⊢
          cases ht with
          | expect next => exact ih d.backlog (hn ▸ receive_backlog hd) _ _ _ h rfl
          | finish hx => exact hx.run _ _ h

structure GreetsAlike (late : Connection σ → Prop) (late' : Connection τ → Prop)
    (I F : Connection σ → Connection τ → Prop) : Prop where
  receive : Coupled late late' I receive receive (fun _ => I) (fun _ => F)
  send : ∀ messages, Coupled late late' I (send messages) (send messages) (fun _ => I) (fun _ => F)
  keyed : ∀ {c c'} key, I c c' → I (keepKey key c) (keepKey key c')
  weaken : ∀ {c c'}, I c c' → F c c'

namespace GreetsAlike

variable {late : Connection σ → Prop} {late' : Connection τ → Prop}
  {I F : Connection σ → Connection τ → Prop} (hI : GreetsAlike late late' I F)
include hI

theorem greeting :
    Coupled late late' I (converse greetingTurn throw none) (converse greetingTurn throw none)
      (fun _ => I) (fun _ => F) := by
  have kept (key : Option BackendKey) (greeting : Greeting) : Coupled late late' I
      (do modify (keepKey key); return greeting : Action σ Greeting)
      (do modify (keepKey key); return greeting : Action τ Greeting) (fun _ => I) (fun _ => F) :=
    Coupled.bind (Q := fun _ => I) (Coupled.modify fun _ _ h => hI.keyed key h)
      fun _ => Coupled.pure fun _ _ h => h
  refine converse_coupled hI.receive (fun key m => ?_) (fun e => Coupled.throw fun _ _ h => h)
    (fun e c h => ⟨e, c, rfl, h⟩) (fun e c h => ⟨e, c, rfl, h⟩) none
  cases m with
  | authenticationOk | backendKeyData => exact .expect _
  | authenticationCleartextPassword | readyForQuery => exact .finish (kept key _)
  | _ => exact .finish (Coupled.throw fun _ _ h => hI.weaken h)

theorem authenticate (password : Option String) (times : Nat) :
    Coupled late late' I (authenticate password times) (authenticate password times)
      (fun _ => I) (fun _ => F) := by
  induction times with
  | zero => exact Coupled.throw fun _ _ h => hI.weaken h
  | succ times ih =>
      refine hI.greeting.bind fun greeting => ?_
      cases greeting with
      | begin => exact Coupled.pure fun _ _ h => h
      | givePassword =>
          cases password with
          | none => exact Coupled.throw fun _ _ h => hI.weaken h
          | some text => exact (hI.send _).bind fun _ => ih

end GreetsAlike

/-- Sending and reading keep the relation and give the same results, and so does every change that
the two connections make for themselves. Time limits are only set to what is allowed. -/
structure Coupling (allowed : Option Duration → Prop)
    (R : Connection σ → Connection τ → Prop) : Prop where
  face : ∀ {c c'}, R c c' → SameFace c c'
  within : ∀ {c c' d d'}, R c c' → Within c d → Within c' d' → SameFace d d' → R d d'
  markBroken : ∀ {c c'}, R c c' → R c.markBroken c'.markBroken
  shut : ∀ {c c'}, R c c' → R c.shut c'.shut
  started : ∀ {c c'}, R c c' → R (c.started c.statementTimeout) (c'.started c'.statementTimeout)
  ended : ∀ {c c'}, R c c' → R { c with deadline := none } { c' with deadline := none }
  limited : ∀ {c c'} limit, allowed limit → R c c' →
    R { c with statementTimeout := limit } { c' with statementTimeout := limit }
  send : ∀ messages, Coupled Never Never (Live R) (send messages) (send messages)
    (fun _ => Live R) (fun _ => R)
  receive : Coupled Never Never (Live R) receive receive (fun _ => Live R) (fun _ => R)

namespace Coupling

section

variable {allowed : Option Duration → Prop} {R I J : Connection σ → Connection τ → Prop}
  {Q : α → Connection σ → Connection τ → Prop}
  {E : ClientError → Connection σ → Connection τ → Prop} (hR : Coupling allowed R)
include hR

theorem live_usable {c : Connection σ} {c' : Connection τ} (h : Live R c c') :
    c'.isUsable = true :=
  (hR.face h.1).isUsable.trans h.2

theorem live_within {c d : Connection σ} {c' d' : Connection τ} (h : Live R c c')
    (hd : Within c d) (hd' : Within c' d') (hf : SameFace d d') (hu : d.isUsable = true) :
    Live R d d' :=
  ⟨hR.within h.1 hd hd' hf, hu⟩

theorem greets : GreetsAlike Never Never (Live R) R where
  receive := hR.receive
  send := hR.send
  keyed {c c'} key h := by
    have face := hR.face h.1
    refine hR.live_within h
      ⟨rfl, rfl, rfl, rfl, rfl, id⟩ ⟨rfl, rfl, rfl, rfl, rfl, id⟩ ?_ h.2
    exact { face with backendKey := congrArg (key <|> ·) face.backendKey }
  weaken h := h.1

theorem applyReady_live (status : TransactionStatus) :
    Coupled Never Never (Live R) (modify (applyReady status)) (modify (applyReady status))
      (fun _ => Live R) E := by
  refine Coupled.modify fun c c' h => ?_
  have face := hR.face h.1
  refine hR.live_within h ⟨rfl, rfl, rfl, rfl, rfl, fun _ => h.2⟩
    ⟨rfl, rfl, rfl, rfl, rfl, fun _ => hR.live_usable h⟩ ?_ rfl
  exact { face with transaction := rfl, status := rfl }

omit hR [Channel σ] in
theorem failTransaction_within (c : Connection σ) : Within c c.failTransaction := by
  unfold failTransaction
  split
  · exact ⟨rfl, rfl, rfl, rfl, rfl, id⟩
  · exact ⟨rfl, rfl, rfl, rfl, rfl, id⟩

omit hR [Channel σ] [Channel τ] in
theorem failTransaction_face {c : Connection σ} {c' : Connection τ} (h : SameFace c c') :
    SameFace c.failTransaction c'.failTransaction := by
  unfold failTransaction
  by_cases hi : c.autocommit = true ∧ c.transaction = .idle
  · have hi' : c'.autocommit = true ∧ c'.transaction = .idle := by
      rwa [h.autocommit, h.transaction]
    rw [if_pos hi, if_pos hi']
    exact h
  · have hi' : ¬(c'.autocommit = true ∧ c'.transaction = .idle) := by
      rwa [h.autocommit, h.transaction]
    rw [if_neg hi, if_neg hi']
    exact { h with transaction := rfl }

theorem failTransaction_live :
    Coupled Never Never (Live R) (modify failTransaction) (modify failTransaction)
      (fun _ => Live R) E := by
  refine Coupled.modify fun c c' h => ?_
  refine hR.live_within h (failTransaction_within c) (failTransaction_within c')
    (failTransaction_face (hR.face h.1)) ?_
  have hu := h.2
  unfold failTransaction
  split
  · exact hu
  · exact hu

/-- A change of the transaction's state. -/
theorem transaction_keeps {c : Connection σ} {c' : Connection τ} (h : R c c')
    (state : TransactionState) :
    R { c with transaction := state } { c' with transaction := state } := by
  have face := hR.face h
  refine hR.within h ⟨rfl, rfl, rfl, rfl, rfl, id⟩ ⟨rfl, rfl, rfl, rfl, rfl, id⟩ ?_
  exact { face with transaction := rfl }

theorem breakWith_keeps (e : ClientError) :
    Coupled Never Never (Live R) (breakWith e : Action σ α) (breakWith e) Q (fun _ => R) :=
  ⟨fun _ _ h => .error (hR.markBroken h.1)⟩

theorem failStream_keeps (e : ClientError) :
    Coupled Never Never R (failStream e : Action σ α) (failStream e) Q (fun _ => R) :=
  ⟨fun _ _ h => .error (hR.transaction_keeps (hR.markBroken h) .failed)⟩

theorem failStream_live (e : ClientError) :
    Coupled Never Never (Live R) (failStream e : Action σ α) (failStream e) Q (fun _ => R) :=
  (hR.failStream_keeps e).mono (fun _ _ h => h.1) (fun _ _ _ h => h) fun _ _ _ h => h

/-- A reader whose connection is given up when it fails. -/
theorem converse_live {react : α → BackendMessage → Turn σ α β}
    {react' : α → BackendMessage → Turn τ α β} {onFailure : ClientError → Action σ β}
    {onFailure' : ClientError → Action τ β} {Q : β → Connection σ → Connection τ → Prop}
    (hturn : ∀ a m, Turn.Paired (fun x y => Coupled Never Never (Live R) x y Q (fun _ => R))
      (react a m) (react' a m))
    (hfail : ∀ e, Coupled Never Never R (onFailure e) (onFailure' e) Q (fun _ => R)) (a : α) :
    Coupled Never Never (Live R) (converse react onFailure a) (converse react' onFailure' a) Q
      (fun _ => R) :=
  converse_coupled hR.receive hturn hfail (fun _ _ h => h.elim) (fun _ _ h => h.elim) a

theorem surprised_paired (m : BackendMessage) (place : String)
    {Q : β → Connection σ → Connection τ → Prop} :
    Turn.Paired (fun x y => Coupled Never Never (Live R) x y Q (fun _ => R))
      (surprised m place : Turn σ α β) (surprised m place) :=
  .finish (hR.breakWith_keeps _)

omit hR [Channel σ] [Channel τ] in
theorem throw_keeps (e : ClientError) :
    Coupled Never Never R (throw e : Action σ α) (throw e) Q (fun _ => R) :=
  Coupled.throw fun _ _ h => h

theorem settle_coupled :
    Coupled Never Never (Live R) settle settle (fun _ => Live R) (fun _ => R) := by
  unfold settle
  refine Coupled.get_bind fun c c' h => ?_
  rw [(hR.face h.1).isStreaming]
  split
  · refine Coupled.of_eq h (hR.converse_live (fun error m => ?_) throw_keeps none)
    cases m with
    | rowDescription | dataRow | commandComplete | emptyQueryResponse => exact .expect error
    | errorResponse report => exact .expect (some report)
    | readyForQuery status =>
        refine .finish ((hR.applyReady_live status).bind fun _ => ?_)
        split
        · exact hR.failTransaction_live
        · exact Coupled.pure fun _ _ h => h
    | _ => exact hR.surprised_paired _ _
  · exact Coupled.of_eq h (Coupled.pure fun _ _ h => h)

theorem command_coupled (sql : String) :
    Coupled Never Never (Live R) (command sql) (command sql) (fun _ => Live R) (fun _ => R) := by
  unfold command
  refine (hR.send _).bind fun _ => ?_
  refine hR.converse_live (fun answer m => ?_) throw_keeps ({} : Answer)
  cases m with
  | rowDescription | dataRow | emptyQueryResponse => exact .expect answer
  | commandComplete tag => exact .expect { answer with tag := some tag }
  | errorResponse report => exact .expect { answer with error := some report }
  | readyForQuery status =>
      refine .finish ((hR.applyReady_live status).bind fun _ => ?_)
      cases answer.error with
      | none => exact Coupled.pure fun _ _ h => h
      | some report => exact Coupled.throw fun _ _ h => h.1
  | _ => exact hR.surprised_paired _ _

theorem openResult_coupled (fields : List FieldDescription) :
    Coupled Never Never (Live R) (openResult fields) (openResult fields) (fun _ => Live R)
      (fun _ => R) := by
  constructor
  intro c c' h
  have face := hR.face h.1
  have first : openResult fields c = (.ok (.rows c.nextResult (fields.map Column.ofField)),
      { c with
        status := .streaming c.nextResult (fields.map Column.ofField)
        nextResult := c.nextResult + 1 }) := rfl
  have second : openResult fields c' = (.ok (.rows c.nextResult (fields.map Column.ofField)),
      { c' with
        status := .streaming c.nextResult (fields.map Column.ofField)
        nextResult := c.nextResult + 1 }) := by
    rw [← face.nextResult]
    rfl
  rw [first, second]
  refine .ok (hR.live_within h ⟨rfl, rfl, rfl, rfl, rfl, fun _ => h.2⟩
    ⟨rfl, rfl, rfl, rfl, rfl, fun _ => hR.live_usable h⟩ ?_ rfl)
  exact { face with status := rfl, nextResult := rfl }

theorem submit_coupled (sql : String) (params : List Value) :
    Coupled Never Never (Live R) (submit sql params) (submit sql params) (fun _ => Live R)
      (fun _ => R) := by
  unfold submit
  refine (hR.send _).bind fun _ => ?_
  refine hR.converse_live (fun answer m => ?_) throw_keeps ({} : Answer)
  cases m with
  | parseComplete | bindComplete | noData | emptyQueryResponse => exact .expect answer
  | commandComplete tag => exact .expect { answer with tag := some tag }
  | errorResponse report => exact .expect { answer with error := some report }
  | rowDescription fields =>
      unfold statementTurn
      cases answer.error with
      | none => exact .finish (hR.openResult_coupled fields)
      | some report => exact hR.surprised_paired _ _
  | readyForQuery status =>
      refine .finish ((hR.applyReady_live status).bind fun _ => ?_)
      cases answer.error with
      | none => exact Coupled.pure fun _ _ h => h
      | some report =>
          exact hR.failTransaction_live.bind fun _ => Coupled.throw fun _ _ h => h.1
  | _ => exact hR.surprised_paired _ _

theorem pull_coupled (columns : List Column) :
    Coupled Never Never (Live R) (converse (pullTurn columns) failStream {})
      (converse (pullTurn columns) failStream {}) (fun _ => Live R) (fun _ => R) := by
  refine hR.converse_live (fun answer m => ?_) hR.failStream_keeps ({} : Answer)
  cases m with
  | commandComplete tag => exact .expect _
  | errorResponse report => exact .expect _
  | readyForQuery status =>
      refine .finish ((hR.applyReady_live status).bind fun _ => ?_)
      cases answer.error with
      | none => exact Coupled.pure fun _ _ h => h
      | some report =>
          exact hR.failTransaction_live.bind fun _ => Coupled.throw fun _ _ h => h.1
  | dataRow values =>
      unfold pullTurn
      dsimp only
      split
      · exact .expect answer
      · refine .finish ?_
        unfold takeRow
        split
        · exact Coupled.pure fun _ _ h => h
        · exact hR.failStream_live _
  | rowDescription | emptyQueryResponse =>
      unfold pullTurn
      dsimp only
      split
      · exact .expect answer
      · exact .finish (hR.failStream_live _)
  | _ => exact .finish (hR.failStream_live _)

/-! ## Operations -/

omit hR [Channel τ] in
theorem started_usable (limit : Option Duration) (c : Connection σ) :
    (c.started limit).isUsable = c.isUsable := by
  cases limit <;> rfl

theorem timedStatement_coupled {x : Action σ α} {y : Action τ α}
    (h : Coupled Never Never (Live R) x y (fun _ => R) (fun _ => R)) :
    Coupled Never Never (Live R) (timedStatement x) (timedStatement y) (fun _ => R)
      (fun _ => R) := by
  constructor
  intro c c' hc
  unfold timedStatement
  rw [timed_apply, timed_apply]
  have started : Live R (c.started c.statementTimeout) (c'.started c'.statementTimeout) :=
    ⟨hR.started hc.1, (started_usable _ c).trans hc.2⟩
  refine Matched.punctual (h.run _ _ started) (fun a d d' h => ?_) fun e d d' h => ?_
  · exact .ok (hR.ended h)
  · exact .error (hR.ended h)

theorem ensureUsable_coupled :
    Coupled Never Never R ensureUsable ensureUsable (fun _ => Live R) (fun _ => R) := by
  unfold ensureUsable
  refine Coupled.get_bind fun c c' h => ?_
  rw [(hR.face h).isUsable]
  cases hu : c.isUsable with
  | true => exact Coupled.of_eq (R := Live R) ⟨h, hu⟩ (Coupled.pure fun _ _ h => h)
  | false => exact Coupled.of_eq h (Coupled.throw fun _ _ h => h)

theorem ensureAccepted_coupled (kind : SqlKind) :
    Coupled Never Never (Live R) (ensureAccepted kind) (ensureAccepted kind) (fun _ => Live R)
      (fun _ => R) := by
  unfold ensureAccepted
  refine Coupled.get_bind fun c c' h => ?_
  rw [(hR.face h.1).transaction]
  split
  · exact Coupled.of_eq h (Coupled.throw fun _ _ h => h.1)
  · exact Coupled.of_eq h (Coupled.pure fun _ _ h => h)

omit hR [Channel σ] [Channel τ] in
theorem unlive {x : Action σ α} {y : Action τ α}
    (h : Coupled Never Never I x y (fun _ => Live R) (fun _ => R)) :
    Coupled Never Never I x y (fun _ => R) (fun _ => R) :=
  h.mono (fun _ _ h => h) (fun _ _ _ h => h.1) fun _ _ _ h => h

theorem execute_coupled (sql : String) (params : List Value) :
    Coupled Never Never R (execute sql params) (execute sql params) (fun _ => R)
      (fun _ => R) := by
  have submitted : Coupled Never Never (Live R) (submit sql params) (submit sql params)
      (fun _ => R) (fun _ => R) := unlive (hR.submit_coupled sql params)
  unfold execute
  refine hR.ensureUsable_coupled.bind fun _ => (hR.ensureAccepted_coupled _).bind fun _ => ?_
  refine hR.timedStatement_coupled (hR.settle_coupled.bind fun _ => ?_)
  refine (hR.ensureAccepted_coupled _).bind fun _ => Coupled.get_bind fun c c' h => ?_
  have face := hR.face h.1
  rw [face.autocommit, face.transaction]
  split
  · exact Coupled.of_eq h ((hR.command_coupled "BEGIN").bind fun _ => submitted)
  · exact Coupled.of_eq h submitted

theorem nextRow_coupled (id : Nat) :
    Coupled Never Never R (nextRow id) (nextRow id) (fun _ => R) (fun _ => R) := by
  unfold nextRow
  refine Coupled.get_bind fun c c' h => ?_
  rw [(hR.face h).status]
  cases hs : c.status with
  | ready => exact Coupled.of_eq h (Coupled.pure fun _ _ h => h)
  | broken | closed => exact Coupled.of_eq h (Coupled.throw fun _ _ h => h)
  | streaming current columns =>
      have live : Live R c c' := ⟨h, by simp [isUsable, hs]⟩
      dsimp only
      split
      · exact Coupled.of_eq live
          (hR.timedStatement_coupled (unlive (hR.pull_coupled columns)))
      · exact Coupled.of_eq h (Coupled.pure fun _ _ h => h)

theorem begin_coupled (sql : String) :
    Coupled Never Never R (begin sql) (begin sql) (fun _ => R) (fun _ => R) := by
  unfold begin
  refine hR.ensureUsable_coupled.bind fun _ => hR.timedStatement_coupled ?_
  refine hR.settle_coupled.bind fun _ => Coupled.get_bind fun c c' h => ?_
  rw [(hR.face h.1).transaction]
  split
  · exact Coupled.of_eq h (Coupled.throw fun _ _ h => h.1)
  · exact Coupled.of_eq h ((hR.command_coupled sql).bind fun _ => Coupled.pure fun _ _ h => h.1)

theorem ping_coupled : Coupled Never Never R ping ping (fun _ => R) (fun _ => R) := by
  unfold ping
  refine hR.ensureUsable_coupled.bind fun _ => hR.timedStatement_coupled ?_
  exact hR.settle_coupled.bind fun _ =>
    (hR.command_coupled "").bind fun _ => Coupled.pure fun _ _ h => h.1

theorem setAutocommit_coupled (on : Bool) :
    Coupled Never Never R (setAutocommit on) (setAutocommit on) (fun _ => R) (fun _ => R) := by
  unfold setAutocommit
  refine hR.ensureUsable_coupled.bind fun _ => Coupled.get_bind fun c c' h => ?_
  rw [(hR.face h.1).transaction]
  split
  · exact Coupled.of_eq h (Coupled.throw fun _ _ h => h.1)
  · refine Coupled.of_eq h (Coupled.modify fun c c' h => ?_)
    have face := hR.face h.1
    refine hR.within h.1 ⟨rfl, rfl, rfl, rfl, rfl, id⟩ ⟨rfl, rfl, rfl, rfl, rfl, id⟩ ?_
    exact { face with autocommit := rfl }

theorem leaving_coupled {x : Action σ α} {y : Action τ α} (state : TransactionState)
    (h : Coupled Never Never I x y (fun _ => R) (fun _ => R)) :
    Coupled Never Never I (leaving state x) (leaving state y) (fun _ => R) (fun _ => R) := by
  constructor
  intro c c' hc
  unfold leaving
  refine Matched.punctual (h.run c c' hc) (fun a d d' h => ?_) fun e d d' h => ?_
  · exact .ok (hR.transaction_keeps h state)
  · exact .error (hR.transaction_keeps h state)

theorem failingTo_coupled {x : Action σ α} {y : Action τ α} (state : TransactionState)
    (h : Coupled Never Never I x y (fun _ => R) (fun _ => R)) :
    Coupled Never Never I (failingTo state x) (failingTo state y) (fun _ => R) (fun _ => R) := by
  constructor
  intro c c' hc
  unfold failingTo
  refine Matched.punctual (h.run c c' hc) (fun a d d' h => ?_) fun e d d' h => ?_
  · exact .ok h
  · exact .error (hR.transaction_keeps h state)

theorem commitSettled_coupled :
    Coupled Never Never (Live R) commitSettled commitSettled (fun _ => R) (fun _ => R) := by
  unfold commitSettled
  refine Coupled.get_bind fun c c' h => ?_
  rw [(hR.face h.1).transaction]
  cases c.transaction with
  | idle => exact Coupled.of_eq h (Coupled.pure fun _ _ h => h.1)
  | failed =>
      have rolled := hR.leaving_coupled .idle (unlive (hR.command_coupled "ROLLBACK"))
      exact Coupled.of_eq h (rolled.bind fun _ => Coupled.throw fun _ _ h => h)
  | active =>
      have committed := hR.failingTo_coupled .failed (unlive (hR.command_coupled "COMMIT"))
      exact Coupled.of_eq h (committed.bind fun _ => Coupled.pure fun _ _ h => h)

theorem commit_coupled : Coupled Never Never R commit commit (fun _ => R) (fun _ => R) := by
  unfold commit
  refine hR.ensureUsable_coupled.bind fun _ => Coupled.get_bind fun c c' h => ?_
  have face := hR.face h.1
  rw [face.transaction, face.isStreaming]
  split
  · exact Coupled.of_eq h (Coupled.pure fun _ _ h => h.1)
  · exact Coupled.of_eq h (hR.timedStatement_coupled
      (hR.settle_coupled.bind fun _ => hR.commitSettled_coupled))

theorem rollback_coupled : Coupled Never Never R rollback rollback (fun _ => R) (fun _ => R) := by
  unfold rollback
  refine hR.leaving_coupled .idle (hR.ensureUsable_coupled.bind fun _ => ?_)
  refine Coupled.get_bind fun c c' h => ?_
  have face := hR.face h.1
  rw [face.transaction, face.isStreaming]
  split
  · exact Coupled.of_eq h (Coupled.pure fun _ _ h => h.1)
  · refine Coupled.of_eq h (hR.timedStatement_coupled (hR.settle_coupled.bind fun _ => ?_))
    refine Coupled.get_bind fun c c' h => ?_
    rw [(hR.face h.1).transaction]
    split
    · exact Coupled.of_eq h
        ((hR.command_coupled "ROLLBACK").bind fun _ => Coupled.pure fun _ _ h => h.1)
    · exact Coupled.of_eq h (Coupled.pure fun _ _ h => h.1)

theorem close_coupled {c : Connection σ} {c' : Connection τ} (h : R c c') :
    R c.close c'.close := by
  have face := hR.face h
  unfold close
  rw [face.status, face.transaction]
  by_cases hc : c.status = .closed
  · rw [if_pos hc, if_pos hc]
    exact h
  rw [if_neg hc, if_neg hc]
  have rolled : R (if c.status = .ready ∧ c.transaction ≠ .idle
        then (timedStatement (command "ROLLBACK") c).2 else c)
      (if c.status = .ready ∧ c.transaction ≠ .idle
        then (timedStatement (command "ROLLBACK") c').2 else c') := by
    split
    · next hs =>
        have live : Live R c c' := ⟨h, by simp [isUsable, hs.1]⟩
        have timed := hR.timedStatement_coupled (unlive (hR.command_coupled "ROLLBACK"))
        exact (timed.run c c' live).states
    · exact h
  dsimp only
  generalize (if c.status = .ready ∧ c.transaction ≠ .idle
    then (timedStatement (command "ROLLBACK") c).2 else c) = d at rolled ⊢
  generalize (if c.status = .ready ∧ c.transaction ≠ .idle
    then (timedStatement (command "ROLLBACK") c').2 else c') = d' at rolled ⊢
  rw [(hR.face rolled).isUsable]
  split
  · next hu => exact hR.shut ((unlive (hR.send [.terminate])).run d d' ⟨rolled, hu⟩).states
  · exact hR.shut rolled

end

end Coupling

end SqlWire.Connection
