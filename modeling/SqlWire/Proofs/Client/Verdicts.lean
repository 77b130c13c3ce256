import SqlWire.Proofs.Client.Parts
import SqlWire.Proofs.Client.Rows

/-!
# What errors say of their connection

Some errors say that their connection is of no more use. Every part of a connection that fails
with such an error gives the connection up first, with one exception: what has no form as bytes is
refused before anything is sent, with the error of a server that broke the protocol, and the
connection goes on as it was.
-/

namespace SqlWire.Connection

variable {σ : Type} {α β : Type} {c d : Connection σ} {e : ClientError}

def Honest (e : ClientError) (c : Connection σ) : Prop :=
  e.breaksConnection = true → c.isUsable = false

def Truthful (r : Except ClientError α × Connection σ) : Prop :=
  ∀ e, r.1 = .error e → Honest e r.2

def Fair (messages : List FrontendMessage) (e : ClientError) (c : Connection σ) : Prop :=
  Honest e c ∨
    ∃ w, FrontendMessage.encodeAll messages = .error w ∧ e = .ofWire w ∧ c.status = .ready

theorem Honest.within (h : Honest e c) (hs : d.status = c.status) : Honest e d :=
  fun hb => (isUsable_of_status hs).trans (h hb)

theorem Fair.within {messages : List FrontendMessage} (h : Fair messages e c)
    (hs : d.status = c.status) : Fair messages e d := by
  obtain h | ⟨w, hw, he, hc⟩ := h
  · exact .inl (h.within hs)
  · exact .inr ⟨w, hw, he, hs.trans hc⟩

theorem honest_of_lost (h : c.isUsable = false) : Honest e c := fun _ => h

theorem honest_of_mild (h : e.breaksConnection = false) : Honest e c := by
  intro hb
  rw [h] at hb
  cases hb

theorem truthful_of_ensures {action : Action σ α} {P : Connection σ → Prop}
    {Q : α → Connection σ → Prop} (h : Ensures P action Q Honest) (hc : P c) :
    Truthful (action c) :=
  fun _ he => (h.run c hc).error he

def Anyhow (_ : Connection σ) : Prop := True

def Resting (c : Connection σ) : Prop := c.status = .ready

section

variable {P : Connection σ → Prop} {Q : α → Connection σ → Prop} {action : Action σ α}

theorem throw_mild (h : e.breaksConnection = false) :
    Ensures P (throw e : Action σ α) Q Honest :=
  Ensures.throw fun _ _ => honest_of_mild h

theorem throw_lost : Ensures (·.isUsable = false) (throw e : Action σ α) Q Honest :=
  Ensures.throw fun _ h => honest_of_lost h

theorem ensureUsable_honest :
    Ensures Anyhow (ensureUsable : Action σ Unit) (fun _ c => c.isUsable = true) Honest :=
  (ensureUsable_ensures (P := Anyhow)).mono (fun _ h => h) (fun _ _ h => h.2)
    fun _ _ h => honest_of_lost h.2

theorem ensureAccepted_honest (kind : SqlKind) :
    Ensures P (ensureAccepted kind) (fun _ => P) Honest := by
  refine Ensures.get_bind fun c hc => ?_
  split
  · exact throw_mild rfl
  · exact Ensures.of_eq hc (Ensures.pure fun _ h => h)

theorem leaving_honest (state : TransactionState) (h : Ensures P action (fun _ _ => True) Honest) :
    Ensures P (leaving state action) (fun _ _ => True) Honest :=
  leaving_ensures (h.mono (fun _ h => h) (fun _ _ h => h) fun _ _ h => h.within rfl)

theorem failingTo_honest (state : TransactionState)
    (h : Ensures P action (fun _ _ => True) Honest) :
    Ensures P (failingTo state action) (fun _ _ => True) Honest :=
  failingTo_ensures (h.mono (fun _ h => h) (fun _ _ h => h) fun _ _ h => h.within rfl)

end

variable [Channel σ]

section

variable {P : Connection σ → Prop} {Q : α → Connection σ → Prop}

theorem breakWith_honest (e : ClientError) : Ensures P (breakWith e : Action σ α) Q Honest :=
  ⟨fun c _ => honest_of_lost (markBroken_unusable c)⟩

theorem failStream_honest (e : ClientError) : Ensures P (failStream e : Action σ α) Q Honest :=
  ⟨fun c _ => honest_of_lost (markBroken_unusable c)⟩

end

/-! ## Exchanges -/

/-- A request that has a form as bytes is sent, or the connection is given up. -/
theorem send_honest {messages : List FrontendMessage} {P : Connection σ → Prop}
    (hm : ∃ bytes, FrontendMessage.encodeAll messages = .ok bytes) :
    Ensures P (send messages) (fun _ => Anyhow) Honest := by
  obtain ⟨bytes, hb⟩ := hm
  constructor
  intro c _
  unfold send
  rw [hb]
  dsimp only
  rcases Channel.send bytes c.channel with ⟨_ | f, channel⟩
  · trivial
  · exact honest_of_lost (markBroken_unusable _)

/-- A reader is honest if its turns are, and if it is so about a connection that was given up. -/
theorem converse_honest {react : α → BackendMessage → Turn σ α β}
    {onFailure : ClientError → Action σ β} {Q : β → Connection σ → Prop}
    (hturn : ∀ a m, (react a m).Comes (fun _ => True)
      fun action => Ensures Anyhow action Q Honest)
    (hfail : ∀ e, Ensures (·.isUsable = false) (onFailure e) Q Honest) (a : α) :
    Ensures Anyhow (converse react onFailure a) Q Honest := by
  refine Ensures.of_each fun c _ => ?_
  have reads : Ensures (Reads c []) (converse react onFailure a) Q Honest := by
    refine converse_reads (I := fun _ _ => True) ?_ ?_ trivial
    · intro a ms m ns _ _
      exact (hturn a m).mono (fun _ h => h)
        fun _ h => h.mono (fun _ _ => trivial) (fun _ _ h => h) fun _ _ h => h
    · intro e
      refine (hfail e).mono ?_ (fun _ _ h => h) fun _ _ h => h
      intro d hb
      obtain ⟨d, -, -, rfl⟩ := hb
      exact markBroken_unusable d
  exact Ensures.of_eq (Reads.refl c) reads

theorem surprised_honest {I : α → Prop} {Q : β → Connection σ → Prop} (m : BackendMessage)
    (place : String) :
    (surprised m place : Turn σ α β).Comes I fun action => Ensures Anyhow action Q Honest :=
  breakWith_honest _

theorem ready_honest (status : TransactionStatus) :
    Ensures Anyhow (modify (applyReady status) : Action σ Unit) (fun _ => Resting) Honest :=
  Ensures.modify fun _ _ => rfl

theorem fails_honest :
    Ensures Resting (modify failTransaction : Action σ Unit) (fun _ => Resting) Honest :=
  Ensures.modify fun c h => (aside_failTransaction c).status.trans h

/-- The end of an answer, which tells of an error or does not. -/
theorem concluded_honest {answer : Answer} {result : Action σ β} {Q : β → Connection σ → Prop}
    (status : TransactionStatus) (hr : Ensures Resting result Q Honest) :
    Ensures Anyhow (do
      modify (applyReady status)
      match answer.error with
      | some report =>
        modify failTransaction
        throw (.ofReport report)
      | none => result) Q Honest := by
  refine (ready_honest status).bind fun _ => ?_
  split
  · exact fails_honest.bind fun _ => throw_mild rfl
  · exact hr

theorem settle_honest :
    Ensures (·.isUsable = true) (settle : Action σ Unit) (fun _ => Resting) Honest := by
  have reader : Ensures Anyhow (converse settleTurn throw none : Action σ Unit)
      (fun _ => Resting) Honest := by
    refine converse_honest ?_ (fun _ => throw_lost) none
    intro error m
    cases m with
    | rowDescription | dataRow | commandComplete | emptyQueryResponse | errorResponse =>
        exact trivial
    | readyForQuery status =>
        refine (ready_honest status).bind fun _ => ?_
        split
        · exact fails_honest
        · exact Ensures.pure fun _ h => h
    | _ => exact surprised_honest _ _
  refine Ensures.get_bind fun c hu => ?_
  split
  · exact Ensures.of_eq (P := Anyhow) trivial reader
  · next hs =>
      exact Ensures.of_eq (P := Resting) (ready_of_usable hu (by simpa using hs))
        (Ensures.pure fun _ h => h)

theorem IsCommand.sendable {sql : String} (h : IsCommand sql) :
    ∃ bytes, FrontendMessage.encodeAll [.query sql] = .ok bytes := by
  cases h with
  | begin level => cases level <;> exact ⟨_, rfl⟩
  | _ => exact ⟨_, rfl⟩

theorem command_honest {sql : String} (hs : IsCommand sql) :
    Ensures Resting (command sql : Action σ (Option String)) (fun _ => Resting) Honest := by
  refine (send_honest hs.sendable).bind fun _ => ?_
  refine converse_honest ?_ (fun _ => throw_lost) ({} : Answer)
  intro answer m
  cases m with
  | rowDescription | dataRow | commandComplete | emptyQueryResponse | errorResponse =>
      exact trivial
  | readyForQuery status =>
      refine (ready_honest status).bind fun _ => ?_
      split
      · exact throw_mild rfl
      · exact Ensures.pure fun _ h => h
  | _ => exact surprised_honest _ _

/-- A command of which only the error counts. -/
theorem commanded_honest {sql : String} (hs : IsCommand sql) :
    Ensures Resting (command sql : Action σ (Option String)) (fun _ _ => True) Honest :=
  (command_honest hs).mono (fun _ h => h) (fun _ _ _ => trivial) fun _ _ h => h

theorem statement_honest :
    Ensures Anyhow (converse statementTurn throw {} : Action σ Submitted) (fun _ _ => True)
      Honest := by
  refine converse_honest ?_ (fun _ => throw_lost) ({} : Answer)
  intro answer m
  cases m with
  | parseComplete | bindComplete | noData | emptyQueryResponse | commandComplete
  | errorResponse => exact trivial
  | readyForQuery status => exact concluded_honest status (Ensures.pure fun _ _ => trivial)
  | rowDescription fields =>
      unfold statementTurn
      cases answer.error with
      | none => exact ⟨fun _ _ => trivial⟩
      | some report => exact surprised_honest _ _
  | _ => exact surprised_honest _ _

theorem pull_honest (columns : List Column) :
    Ensures Anyhow (converse (pullTurn columns) failStream {} : Action σ Pull)
      (fun _ _ => True) Honest := by
  refine converse_honest ?_ failStream_honest ({} : Answer)
  intro answer m
  cases m with
  | commandComplete | errorResponse => exact trivial
  | readyForQuery status => exact concluded_honest status (Ensures.pure fun _ _ => trivial)
  | dataRow values =>
      unfold pullTurn
      dsimp only
      split
      · exact trivial
      · unfold takeRow
        split
        · exact Ensures.pure fun _ _ => trivial
        · exact failStream_honest _
  | rowDescription | emptyQueryResponse =>
      unfold pullTurn
      dsimp only
      split
      · exact trivial
      · exact failStream_honest _
  | _ => exact failStream_honest _

/-! ## Calls -/

theorem timedStatement_fair {action : Action σ α} {P : Connection σ → Prop}
    (hP : ∀ {c d}, P c → d.status = c.status → P d)
    {E : ClientError → Connection σ → Prop}
    (hE : ∀ {e c d}, E e c → d.status = c.status → E e d)
    (h : Ensures P action (fun _ _ => True) E) :
    Ensures P (timedStatement action) (fun _ _ => True) E := by
  have timed (limit : Option Duration) : Ensures P (timed limit action) (fun _ _ => True) E :=
    timed_ensures (fun c hc => hP hc (aside_started limit c).status)
      (h.mono (fun _ h => h) (fun _ _ h => h) fun _ _ h => hE h rfl)
  exact ⟨fun c hc => (timed c.statementTimeout).run c hc⟩

/-- An exchange of a usable connection under the time limit for statements, which first drains
what nobody reads any more. -/
theorem exchange_honest {action : Action σ α}
    (h : Ensures Resting action (fun _ _ => True) Honest) :
    Ensures (·.isUsable = true) (timedStatement (settle >>= fun _ => action)) (fun _ _ => True)
      Honest :=
  timedStatement_fair (fun hu hs => (isUsable_of_status hs).trans hu)
    (fun h hs => h.within hs) (settle_honest.bind fun _ => h)

theorem begin_honest (level : Isolation) :
    Ensures Anyhow (begin level.sql : Action σ Unit) (fun _ _ => True) Honest := by
  refine ensureUsable_honest.bind fun _ => exchange_honest (Ensures.get_bind fun c hc => ?_)
  split
  · exact throw_mild rfl
  · exact Ensures.of_eq hc ((commanded_honest (.begin level)).bind
      fun _ => Ensures.pure fun _ _ => trivial)

theorem ping_honest : Ensures Anyhow (ping : Action σ Unit) (fun _ _ => True) Honest := by
  refine ensureUsable_honest.bind fun _ => exchange_honest ?_
  exact (commanded_honest .ping).bind fun _ => Ensures.pure fun _ _ => trivial

theorem commitSettled_honest :
    Ensures Resting (commitSettled : Action σ Unit) (fun _ _ => True) Honest := by
  refine Ensures.get_bind fun c hc => ?_
  cases c.transaction with
  | idle => exact Ensures.pure fun _ _ => trivial
  | failed =>
      exact Ensures.of_eq hc ((leaving_honest .idle (commanded_honest .rollback)).bind
        fun _ => throw_mild rfl)
  | active =>
      exact Ensures.of_eq hc ((failingTo_honest .failed (commanded_honest .commit)).bind
        fun _ => Ensures.pure fun _ _ => trivial)

theorem commit_honest : Ensures Anyhow (commit : Action σ Unit) (fun _ _ => True) Honest := by
  refine ensureUsable_honest.bind fun _ => Ensures.get_bind fun c hc => ?_
  split
  · exact Ensures.pure fun _ _ => trivial
  · exact Ensures.of_eq (P := (·.isUsable = true)) hc (exchange_honest commitSettled_honest)

theorem rollback_honest : Ensures Anyhow (rollback : Action σ Unit) (fun _ _ => True) Honest := by
  refine leaving_honest .idle (ensureUsable_honest.bind fun _ => Ensures.get_bind fun c hc => ?_)
  split
  · exact Ensures.pure fun _ _ => trivial
  · refine Ensures.of_eq (P := (·.isUsable = true)) hc
      (exchange_honest (Ensures.get_bind fun c hc => ?_))
    split
    · exact Ensures.of_eq hc ((commanded_honest .rollback).bind
        fun _ => Ensures.pure fun _ _ => trivial)
    · exact Ensures.pure fun _ _ => trivial

theorem nextRow_honest (id : Nat) :
    Ensures Anyhow (nextRow id : Action σ Pull) (fun _ _ => True) Honest := by
  refine Ensures.get_bind fun c _ => ?_
  cases hs : c.status with
  | ready => exact Ensures.pure fun _ _ => trivial
  | broken | closed =>
      exact Ensures.of_eq (P := (·.isUsable = false)) (by simp [isUsable, hs]) throw_lost
  | streaming current columns =>
      dsimp only
      split
      · exact Ensures.of_eq (P := Anyhow) trivial
          (timedStatement_fair (fun h _ => h) (fun h hs => h.within hs) (pull_honest columns))
      · exact Ensures.pure fun _ _ => trivial

/-- The request of a statement and the reading of its answer. -/
theorem submit_fair (sql : String) (params : List Value) :
    Ensures Resting (submit sql params : Action σ Submitted) (fun _ _ => True)
      (Fair (statementMessages sql params)) := by
  cases hm : FrontendMessage.encodeAll (statementMessages sql params) with
  | ok bytes =>
      exact ((send_honest ⟨bytes, hm⟩).bind fun _ => statement_honest).mono (fun _ h => h)
        (fun _ _ h => h) fun _ _ h => .inl h
  | error w =>
      constructor
      intro c hc
      have refused : (submit sql params : Action σ Submitted) c = (.error (.ofWire w), c) := by
        unfold submit
        rw [bind_apply]
        unfold send
        rw [hm]
      rw [refused]
      exact .inr ⟨w, hm, rfl, hc⟩

theorem execute_fair (sql : String) (params : List Value) :
    Ensures Anyhow (execute sql params : Action σ Submitted) (fun _ _ => True)
      (Fair (statementMessages sql params)) := by
  have fair {γ : Type} {P : Connection σ → Prop} {Q : γ → Connection σ → Prop}
      {action : Action σ γ} (h : Ensures P action Q Honest) :
      Ensures P action Q (Fair (statementMessages sql params)) :=
    h.mono (fun _ h => h) (fun _ _ h => h) fun _ _ h => .inl h
  refine (fair ensureUsable_honest).bind fun _ => (fair (ensureAccepted_honest _)).bind fun _ => ?_
  refine timedStatement_fair (fun hu hs => (isUsable_of_status hs).trans hu)
    (fun h hs => h.within hs) ?_
  refine (fair settle_honest).bind fun _ => (fair (ensureAccepted_honest _)).bind fun _ => ?_
  refine Ensures.get_bind fun c hc => ?_
  split
  · have begun := fair (command_honest (.begin .serverDefault))
    exact Ensures.of_eq hc (begun.bind fun _ => submit_fair sql params)
  · exact Ensures.of_eq hc (submit_fair sql params)

end SqlWire.Connection

namespace SqlWire.Cursor

open Connection (Honest Anyhow Truthful)

variable {σ : Type} [Channel σ]

def Open (s : Cursor × Connection σ) : Prop := s.1.state ≠ .closed

theorem fetch_honest :
    Ensures Open (fetch : CursorAction σ (Option Row)) (fun _ => Open) fun e s => Honest e s.2 := by
  constructor
  intro s hs
  obtain ⟨k, c⟩ := s
  unfold fetch
  dsimp only
  cases hk : k.state with
  | closed => exact absurd hk hs
  | idle => exact Connection.honest_of_mild rfl
  | exhausted =>
      dsimp only
      cases hu : c.isUsable with
      | true => exact hs
      | false => exact Connection.honest_of_lost hu
  | pending id =>
      have hn := (Connection.nextRow_honest id).run c trivial
      dsimp only
      rcases hr : Connection.nextRow id c with ⟨e | row | tag, c'⟩
      · rw [hr] at hn
        exact hn
      · exact fun h => hs (hk.trans h)
      · exact fun h => nomatch h

theorem fetchOnto_honest (read : List Row) (n : Nat) :
    Ensures Open (fetchOnto read n : CursorAction σ (List Row)) (fun _ => Open)
      fun e s => Honest e s.2 := by
  induction n generalizing read with
  | zero => exact Ensures.pure fun _ h => h
  | succ n ih =>
      refine fetch_honest.bind fun row => ?_
      cases row with
      | some row => exact ih (row :: read)
      | none => exact Ensures.pure fun _ h => h

theorem fetchAll_honest :
    Ensures Open (fetchAll : CursorAction σ (List Row)) (fun _ => Open)
      fun e s => Honest e s.2 :=
  Ensures.get_bind fun _ hs => Ensures.of_eq hs (fetchOnto_honest [] _)

/-- Going through the rows ends at the first error, which is the only one. -/
theorem visitOnto_honest {visited : List Visit} (hv : ∀ e, .failed e ∉ visited) (n : Nat)
    {s : Cursor × Connection σ} (hs : Open s) {e : ClientError}
    (he : .failed e ∈ (visitOnto visited n s).1) : Honest e (visitOnto visited n s).2.2 := by
  induction n generalizing visited s with
  | zero =>
      unfold visitOnto at he
      exact absurd (List.mem_reverse.1 he) (hv e)
  | succ n ih =>
      have hf := fetch_honest.run s hs
      unfold visitOnto at he ⊢
      rcases hr : fetch s with ⟨e' | _ | row, s'⟩
      · rw [hr] at hf he
        simp only [List.mem_append, List.mem_reverse, List.mem_cons, List.mem_replicate, hv,
          Visit.failed.injEq, reduceCtorEq, and_false, or_false, false_or] at he
        subst he
        exact hf
      · rw [hr] at he
        simp [hv] at he
      · rw [hr] at hf he
        exact ih (by simp [hv]) hf he

end SqlWire.Cursor

namespace SqlWire.Connection

variable {σ : Type} [Channel σ]

/-- Whatever is asked of a connection, an error that says the connection is of no more use is
honest, but for a statement that has no form as bytes. -/
structure Trustworthy (c : Connection σ) : Prop where
  execute : ∀ sql params e, (execute sql params c).1 = .error e →
    Fair (statementMessages sql params) e (execute sql params c).2
  commit : Truthful (commit c)
  rollback : Truthful (rollback c)
  ping : Truthful (ping c)
  begin : ∀ level : Isolation, Truthful (begin level.sql c)
  fetch : ∀ k : Cursor, k.state ≠ .closed → ∀ e, (Cursor.fetch (k, c)).1 = .error e →
    Honest e (Cursor.fetch (k, c)).2.2
  fetchMany : ∀ (k : Cursor) n, k.state ≠ .closed → ∀ e,
    (Cursor.fetchMany n (k, c)).1 = .error e → Honest e (Cursor.fetchMany n (k, c)).2.2
  fetchAll : ∀ k : Cursor, k.state ≠ .closed → ∀ e, (Cursor.fetchAll (k, c)).1 = .error e →
    Honest e (Cursor.fetchAll (k, c)).2.2
  visit : ∀ (k : Cursor) n, k.state ≠ .closed → ∀ e, .failed e ∈ (Cursor.visit n (k, c)).1 →
    Honest e (Cursor.visit n (k, c)).2.2

/-- Every connection is trustworthy, over every channel. -/
theorem every_connection_trustworthy (c : Connection σ) : c.Trustworthy where
  execute sql params _ he := ((execute_fair sql params).run c trivial).error he
  commit := truthful_of_ensures commit_honest trivial
  rollback := truthful_of_ensures rollback_honest trivial
  ping := truthful_of_ensures ping_honest trivial
  begin level := truthful_of_ensures (begin_honest level) trivial
  fetch k hk _ he := (Cursor.fetch_honest.run (k, c) hk).error he
  fetchMany k n hk _ he := ((Cursor.fetchOnto_honest [] n).run (k, c) hk).error he
  fetchAll k hk _ he := (Cursor.fetchAll_honest.run (k, c) hk).error he
  visit k n hk _ he := Cursor.visitOnto_honest (s := (k, c)) (by simp) n hk he

/-- A statement with a zero byte is refused as if the server had broken the protocol, and the
connection goes on. -/
theorem unsendable_blames_connection :
    let greeted := (connect { autocommit := true } (Script.saying [.readyForQuery .idle])).2
    let asked := Desk.perform { connection := greeted } (.execute "SELECT '\x00'" [])
    greeted.status = .ready ∧ asked.1 = .failed (.ofWire .interiorNul) ∧
      (ClientError.ofWire .interiorNul).breaksConnection = true ∧
      asked.2.connection.status = .ready := by
  intro greeted asked
  decide +kernel

end SqlWire.Connection
