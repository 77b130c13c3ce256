import SqlWire.Proofs.Client.Abandoning
import SqlWire.Proofs.Client.Verdicts

/-!
# Decisions while a result is pending

What a connection knows of its transaction while the rows of a result are on their way dates from
before the statement that gave them. The switch of autocommit looks at nothing else, and a statement
is refused for it before anything is drained. These two decide as they would behind the result
exactly if the result leaves the transaction, as far as they look at it, as it was.
-/

namespace SqlWire

def BackendMessage.isReport : BackendMessage → Bool
  | errorResponse _ => true
  | _ => false

/-- The state of the transaction behind an answer that ends with this status and in which an error
was reported or not. -/
def TransactionState.behind (autocommit : Bool) (status : TransactionStatus) (reported : Bool) :
    TransactionState :=
  if reported ∧ ¬(autocommit ∧ status = .idle) then .failed else .ofStatus status

theorem Remainder.aftermath {width : Nat} {ms : List BackendMessage} (h : Remainder width ms) :
    Aftermath ms := by
  induction h with
  | aside hm _ ih => exact .aside hm ih
  | row _ _ ih => exact .passed rfl ih
  | completed _ h => exact .passed rfl h
  | failed _ h => exact .passed rfl h

namespace Connection

variable {σ α β : Type} [Channel σ] {c d : Connection σ} {ms : List BackendMessage}

theorem concluded_transaction (status : TransactionStatus) (reported : Bool) (c : Connection σ) :
    (c.concluded status reported).transaction = .behind c.autocommit status reported := by
  have idle : TransactionState.ofStatus status = .idle ↔ status = .idle := by
    cases status <;> simp [TransactionState.ofStatus]
  cases reported with
  | false => rfl
  | true =>
      simp only [concluded, failTransaction, applyReady, become, TransactionState.behind, if_true,
        true_and, idle]
      by_cases h : c.autocommit = true ∧ status = .idle
      · rw [if_pos h, if_neg (not_not_intro h)]
      · rw [if_neg h, if_pos h]

/-! ## What draining comes to -/

/-- Of what is drained only that an error was reported is kept. -/
theorem settleTurn_passed {m : BackendMessage} (hm : m.isPassed = true)
    (error : Option Diagnostic) : ∃ error', settleTurn (σ := σ) error m = .expect error' ∧
      error'.isSome = (error.isSome || m.isReport) := by
  cases m with
  | rowDescription | dataRow | commandComplete | emptyQueryResponse =>
      exact ⟨error, rfl, (Bool.or_false _).symm⟩
  | errorResponse report => exact ⟨some report, rfl, (Bool.or_true _).symm⟩
  | _ => cases hm

/-- Draining an answer comes to the status at its end. -/
theorem settle_concludes (h : Aftermath ms) (error : Option Diagnostic) (ha : Awaiting ms c)
    (hd : c.deadline = none) :
    ∃ status d, ms.getLast? = some (.readyForQuery status) ∧ Alike c d ∧
      converse settleTurn throw error c =
        (.ok (), d.concluded status (error.isSome || ms.any BackendMessage.isReport)) := by
  induction h generalizing c error with
  | @aside m ms hm h ih =>
      obtain ⟨d, hframe, had, step⟩ := converse_awaiting ha hd
      obtain ⟨status, e, hlast, hrest, hsettle⟩ :=
        ih error had (hframe.deadline.trans hd)
      have unreported : m.isReport = false := by
        cases m with
        | errorResponse => cases hm
        | _ => rfl
      refine ⟨status, e, ?_, hframe.trans hrest, ?_⟩
      · rw [List.getLast?_cons, hlast]
        rfl
      · rw [step, if_pos hm, hsettle, List.any_cons, unreported, Bool.false_or]
  | @passed m ms hm h ih =>
      obtain ⟨d, hframe, had, step⟩ := converse_awaiting ha hd
      obtain ⟨error', hturn, hreported⟩ := settleTurn_passed (σ := σ) hm error
      obtain ⟨status, e, hlast, hrest, hsettle⟩ :=
        ih error' had (hframe.deadline.trans hd)
      refine ⟨status, e, ?_, hframe.trans hrest, ?_⟩
      · rw [List.getLast?_cons, hlast]
        rfl
      · rw [step, passed_not_aside hm, hturn, List.any_cons, ← Bool.or_assoc, ← hreported]
        exact hsettle
  | ready status =>
      obtain ⟨d, hframe, -, step⟩ := converse_awaiting ha hd
      refine ⟨status, d, rfl, hframe, ?_⟩
      rw [step]
      cases error <;> rfl

/-- A well-formed rest of an answer can be drained, and then the transaction is as its end says. -/
theorem drains_to {width : Nat} {status : TransactionStatus} (hs : c.isStreaming = true)
    (hl : c.statementTimeout = none) (h : Remainder width ms)
    (hend : ms.getLast? = some (.readyForQuery status)) (ha : Awaiting ms c) :
    ∃ d, timedStatement settle c = (.ok (), d) ∧
      d.transaction = .behind c.autocommit status (ms.any BackendMessage.isReport) := by
  obtain ⟨status', d, hlast, hframe, hsettle⟩ :=
    settle_concludes (c := c.started none) h.aftermath none ha rfl
  rw [hend, Option.some.injEq, BackendMessage.readyForQuery.injEq] at hlast
  subst hlast
  have streams : (c.started none).isStreaming = true := hs
  have settles : settle (c.started none) =
      (.ok (), d.concluded status (ms.any BackendMessage.isReport)) := by
    unfold settle
    rw [bind_apply, get_apply]
    simp only [streams, if_true]
    exact hsettle
  refine ⟨_, (unlimited_apply hl _).trans (by rw [settles]), ?_⟩
  change (d.concluded status _).transaction = _
  rw [concluded_transaction, hframe.autocommit]
  rfl

/-! ## Who refuses a statement -/

/-- The error is not that a failed transaction takes no statement. -/
def Unrefused (e : ClientError) (_ : Connection σ) : Prop := e ≠ .transactionAborted

theorem breakWith_unrefused {P : Connection σ → Prop} {Q : α → Connection σ → Prop}
    {e : ClientError} (he : e ≠ .transactionAborted) :
    Ensures P (breakWith e : Action σ α) Q Unrefused :=
  ⟨fun _ _ => he⟩

theorem takeDelivery_unrefused (limit : Option Duration) :
    Ensures Anyhow (takeDelivery limit : Action σ Unit) (fun _ => Anyhow) Unrefused := by
  constructor
  intro c _
  unfold takeDelivery
  rcases Channel.bound limit c.channel with ⟨_ | f, channel⟩
  · dsimp only
    rcases Channel.receive channel with ⟨bytes | _ | f, channel'⟩
    · trivial
    · exact fun h => by cases h
    · change (if f.isTimeout then _ else _) ≠ _
      split
      · exact fun h => by cases h
      · exact fun h => by cases h
  · exact fun h => by cases h

theorem fill_unrefused :
    Ensures Anyhow (fill : Action σ Unit) (fun _ => Anyhow) Unrefused := by
  constructor
  intro c _
  cases hd : c.deadline with
  | none =>
      rw [fill_unlimited hd]
      exact (takeDelivery_unrefused none).run c trivial
  | some limit =>
      rw [fill_limited hd]
      split
      · exact fun h => by cases h
      · exact (takeDelivery_unrefused _).run _ trivial

theorem receive_unrefused :
    Ensures Anyhow (receive : Action σ BackendMessage) (fun _ => Anyhow) Unrefused := by
  constructor
  intro c _
  fun_induction receive c with
  | case1 => exact fun h => by cases h
  | case2 c _ e c' hf => exact fill_unrefused.error (s := c) trivial hf
  | case3 c _ c' _ ih => exact ih trivial
  | case4 => exact fun h => by cases h
  | case5 c frame rest _ name value _ ih => exact ih trivial
  | case6 c frame rest _ report _ ih => exact ih trivial
  | case7 => trivial

/-- A reader refuses no statement if its turns do not. -/
theorem converse_unrefused {react : α → BackendMessage → Turn σ α β}
    (hturn : ∀ a m, (react a m).Comes (fun _ => True)
      fun action => Ensures Anyhow action (fun _ => Anyhow) Unrefused) (a : α) :
    Ensures Anyhow (converse react throw a) (fun _ => Anyhow) Unrefused := by
  constructor
  intro c _
  fun_induction converse react throw a c with
  | case1 a c e c' hr => exact receive_unrefused.error (s := c) trivial hr
  | case2 a c m c' hr next hn ih => exact ih trivial
  | case3 a c m c' hr action hn =>
      have ht := hturn a m
      rw [hn] at ht
      exact Ensures.run ht c' trivial

theorem send_unrefused (messages : List FrontendMessage) :
    Ensures Anyhow (send messages : Action σ Unit) (fun _ => Anyhow) Unrefused := by
  constructor
  intro c _
  unfold send
  split
  · exact fun h => by cases h
  · next bytes _ =>
      rcases Channel.send bytes c.channel with ⟨_ | f, channel⟩
      · trivial
      · exact fun h => by cases h

theorem command_unrefused (sql : String) :
    Ensures Anyhow (command sql : Action σ (Option String)) (fun _ => Anyhow) Unrefused := by
  refine (send_unrefused _).bind fun _ => converse_unrefused (fun answer m => ?_) _
  cases m with
  | rowDescription | dataRow | commandComplete | emptyQueryResponse | errorResponse =>
      exact trivial
  | readyForQuery status =>
      refine (Ensures.modify (Q := fun _ => Anyhow) fun _ _ => trivial).bind fun _ => ?_
      split
      · exact Ensures.throw fun _ _ h => by cases h
      · exact Ensures.pure fun _ h => h
  | _ => exact breakWith_unrefused fun h => by cases h

theorem submit_unrefused (sql : String) (params : List Value) :
    Ensures Anyhow (submit sql params : Action σ Submitted) (fun _ => Anyhow) Unrefused := by
  refine (send_unrefused _).bind fun _ => converse_unrefused (fun answer m => ?_) _
  cases m with
  | parseComplete | bindComplete | noData | emptyQueryResponse | commandComplete
  | errorResponse => exact trivial
  | readyForQuery status =>
      refine (Ensures.modify (Q := fun _ => Anyhow) fun _ _ => trivial).bind fun _ => ?_
      split
      · refine (Ensures.modify (Q := fun _ => Anyhow) fun _ _ => trivial).bind fun _ => ?_
        exact Ensures.throw fun _ _ h => by cases h
      · exact Ensures.pure fun _ h => h
  | rowDescription fields =>
      unfold statementTurn
      cases answer.error with
      | none => exact ⟨fun _ _ => trivial⟩
      | some report => exact breakWith_unrefused fun h => by cases h
  | _ => exact breakWith_unrefused fun h => by cases h

def Refuses (sql : String) (params : List Value) (c : Connection σ) : Prop :=
  (execute sql params c).1 = .error .transactionAborted

instance (sql : String) (params : List Value) (c : Connection σ) :
    Decidable (Refuses sql params c) :=
  inferInstanceAs (Decidable (_ = _))

omit [Channel σ] in
def Permits (on : Bool) (c : Connection σ) : Prop :=
  (setAutocommit on c).1 = .ok ()

instance (on : Bool) (c : Connection σ) : Decidable (Permits on c) :=
  inferInstanceAs (Decidable (_ = _))

omit [Channel σ] in
theorem ensureAccepted_apply (kind : SqlKind) (c : Connection σ) :
    ensureAccepted kind c =
      (if c.transaction = .failed ∧ kind.endsTransaction = false then .error .transactionAborted
        else .ok (), c) := by
  unfold ensureAccepted
  rw [bind_apply, get_apply]
  simp only [Bool.not_eq_true']
  split
  · rfl
  · rfl

/-- A statement is refused for what the transaction is before the drain or behind it. -/
theorem refuses_iff (hu : c.isUsable = true)
    (hs : settle (c.started c.statementTimeout) = (.ok (), d)) (sql : String)
    (params : List Value) :
    Refuses sql params c ↔ (c.transaction = .failed ∨ d.transaction = .failed) ∧
      (SqlKind.ofText sql).endsTransaction = false := by
  have rest : Ensures Anyhow (do
      let c ← get
      if !c.autocommit ∧ c.transaction = .idle ∧ !(SqlKind.ofText sql).isTransactionControl then
        let _ ← command "BEGIN"
      submit sql params : Action σ Submitted) (fun _ => Anyhow) Unrefused := by
    refine Ensures.get_bind fun d _ => Ensures.of_eq (P := Anyhow) trivial ?_
    split
    · exact (command_unrefused "BEGIN").bind fun _ => submit_unrefused sql params
    · exact submit_unrefused sql params
  unfold Refuses execute
  rw [admits hu, bind_apply, ensureAccepted_apply]
  by_cases hc : c.transaction = .failed ∧ (SqlKind.ofText sql).endsTransaction = false
  · rw [if_pos hc]
    exact ⟨fun _ => ⟨.inl hc.1, hc.2⟩, fun _ => rfl⟩
  · rw [if_neg hc]
    change (timed c.statementTimeout _ c).1 = _ ↔ _
    rw [timed_apply, bind_apply, hs]
    dsimp only
    rw [bind_apply, ensureAccepted_apply]
    by_cases hd : d.transaction = .failed ∧ (SqlKind.ofText sql).endsTransaction = false
    · rw [if_pos hd]
      exact ⟨fun _ => ⟨.inr hd.1, hd.2⟩, fun _ => rfl⟩
    · rw [if_neg hd]
      constructor
      · intro h
        exact absurd rfl ((rest.run d trivial).error h)
      · rintro ⟨hc' | hd', hkind⟩
        · exact absurd ⟨hc', hkind⟩ hc
        · exact absurd ⟨hd', hkind⟩ hd

omit [Channel σ] in
theorem permits_iff (hu : c.isUsable = true) (on : Bool) :
    Permits on c ↔ c.transaction = .idle := by
  unfold Permits setAutocommit
  rw [admits hu, bind_apply, get_apply]
  dsimp only
  by_cases hc : c.transaction = .idle
  · rw [if_neg (not_not_intro hc)]
    exact ⟨fun _ => hc, fun _ => rfl⟩
  · rw [if_pos hc]
    exact ⟨fun h => (nomatch h), fun h => absurd h hc⟩

/-! ## Before the drain and behind it -/

/-- How the decisions of a connection stand to those that it takes once it has drained its result.
They agree on the switch of autocommit if the two know alike whether there is a transaction, and on
statements if a transaction that has failed before the drain has failed behind it. -/
structure Foresees (c d : Connection σ) : Prop where
  switch : (∀ on, Permits on c ↔ Permits on d) ↔ (c.transaction = .idle ↔ d.transaction = .idle)
  refusal : ∀ sql params, Refuses sql params c ↔ Refuses sql params d ∨
    c.transaction = .failed ∧ (SqlKind.ofText sql).endsTransaction = false
  statement : (∀ sql params, Refuses sql params c ↔ Refuses sql params d) ↔
    (c.transaction = .failed → d.transaction = .failed)

theorem foresees_drained (hu : c.isUsable = true)
    (h : timedStatement settle c = (.ok (), d)) : Foresees c d := by
  have run : timedStatement settle c = timed c.statementTimeout settle c := rfl
  rw [run, timed_apply, Prod.mk.injEq] at h
  obtain ⟨hok, hd⟩ := h
  have settled : settle (c.started c.statementTimeout) =
      (.ok (), (settle (c.started c.statementTimeout)).2) := Prod.ext hok rfl
  have usable : (c.started c.statementTimeout).isUsable = true :=
    (isUsable_of_status (aside_started _ c).status).trans hu
  have ready : d.status = .ready := by
    rw [← hd]
    exact (settle_honest.run _ usable).ok hok
  have behind : (settle (c.started c.statementTimeout)).2.transaction = d.transaction := by
    rw [← hd]
  have still : settle (d.started d.statementTimeout) =
      (.ok (), d.started d.statementTimeout) := by
    have hs : (d.started d.statementTimeout).isStreaming = false := by
      simp [isStreaming, (aside_started _ d).status.trans ready]
    unfold settle
    rw [bind_apply, get_apply]
    simp only [hs]
    rfl
  have alike : (d.started d.statementTimeout).transaction = d.transaction := by
    cases d.statementTimeout <;> rfl
  have hud := isUsable_of_ready ready
  have early (sql : String) (params : List Value) := refuses_iff hu settled sql params
  have late (sql : String) (params : List Value) := refuses_iff hud still sql params
  simp only [behind] at early
  simp only [alike, or_self] at late
  constructor
  case switch =>
    simp only [permits_iff hu, permits_iff hud]
    exact ⟨fun h => h true, fun h _ => h⟩
  case refusal =>
    intro sql params
    rw [early, late, or_and_right, or_comm]
  case statement =>
    constructor
    · intro h hc
      have select : (SqlKind.ofText "SELECT 1").endsTransaction = false := by decide +kernel
      exact ((late "SELECT 1" []).1 ((h _ _).1 ((early _ _).2 ⟨.inl hc, select⟩))).1
    · intro h sql params
      rw [early, late]
      exact and_congr_left' (or_iff_right_of_imp h)

theorem awaiting_of_buffered (hm : ∀ m ∈ ms, m.Carried)
    (hb : c.buffer = ms.flatMap fun m => m.encode.toOption.getD []) : Awaiting ms c :=
  ⟨[], _, [], .nil _, by rw [hb], spells_saying hm⟩

/-- Decisions while a result is pending. A well-formed rest of the result can be drained, and
behind it the transaction is as the end of the answer says. A drain that succeeds leaves the switch
of autocommit decided as it was exactly if there is a transaction on both sides of it or on
neither. What is refused behind it is refused before it, and nothing else is refused exactly if a
transaction that had failed before has failed behind it. -/
theorem decisions_while_pending (c : Connection σ) {id : Nat} {columns : List Column}
    (streaming : c.status = .streaming id columns) :
    (∀ ms status, Remainder columns.length ms → ms.getLast? = some (.readyForQuery status) →
      Awaiting ms c → c.statementTimeout = none → ∃ d, timedStatement settle c = (.ok (), d) ∧
        d.transaction = .behind c.autocommit status (ms.any BackendMessage.isReport)) ∧
      ∀ d, timedStatement settle c = (.ok (), d) → Foresees c d := by
  constructor
  · intro ms status wellFormed ends awaits unlimited
    exact drains_to (by simp [isStreaming, streaming]) unlimited wellFormed ends awaits
  · intro d drained
    exact foresees_drained (by simp [isUsable, streaming]) drained

end Connection

def Script.beginningBehind : Script :=
  saying [
    .readyForQuery .idle,
    .rowDescription [.ofType "n" 1 TypeOid.int8 8],
    .dataRow [some [49]],
    .commandComplete "SELECT 1",
    .commandComplete "BEGIN",
    .readyForQuery .inTransaction]

def Script.rollingBackBefore : Script :=
  saying [
    .readyForQuery .idle,
    .commandComplete "BEGIN",
    .errorResponse ⟨"ERROR", SqlState.undefinedTable, "no such table", none⟩,
    .readyForQuery .failed,
    .commandComplete "ROLLBACK",
    .rowDescription [.ofType "n" 1 TypeOid.int8 8],
    .dataRow [some [49]],
    .commandComplete "SELECT 1",
    .readyForQuery .idle]

namespace Connection

def afterStatements (script : Script) (statements : List String) : Connection Script :=
  (Desk.performAll { connection := (connect { autocommit := true } script).2 }
    (statements.map fun sql => .execute sql [])).2.connection

theorem decisions_while_pending_begun :
    let c := afterStatements Script.beginningBehind ["SELECT 1; BEGIN"]
    let columns := [Column.ofField (.ofType "n" 1 TypeOid.int8 8)]
    c.status = .streaming 1 columns ∧
      (∀ ms status, Remainder columns.length ms → ms.getLast? = some (.readyForQuery status) →
        Awaiting ms c → c.statementTimeout = none → ∃ d, timedStatement settle c = (.ok (), d) ∧
          d.transaction = .behind c.autocommit status (ms.any BackendMessage.isReport)) ∧
      ∀ d, timedStatement settle c = (.ok (), d) → Foresees c d := by
  intro c columns
  have streaming : c.status = .streaming 1 columns := by decide +kernel
  exact ⟨streaming, decisions_while_pending c streaming⟩

/-- With a transaction begun behind the rows, autocommit is switched in the midst of it. With a
failed one rolled back before the rows, a statement is refused as if it were still open. -/
theorem pending_decisions_outdated :
    let columns := [Column.ofField (.ofType "n" 1 TypeOid.int8 8)]
    (let c := afterStatements Script.beginningBehind ["SELECT 1; BEGIN"]
      let ms : List BackendMessage := [.dataRow [some [49]], .commandComplete "SELECT 1",
        .commandComplete "BEGIN", .readyForQuery .inTransaction]
      c.status = .streaming 1 columns ∧ Remainder columns.length ms ∧ Awaiting ms c ∧
        (timedStatement settle c).1 = .ok () ∧ Permits false c ∧
        ¬Permits false (timedStatement settle c).2) ∧
      let c := afterStatements Script.rollingBackBefore
        ["BEGIN; SELECT a FROM b", "ROLLBACK; SELECT 1"]
      let ms : List BackendMessage := [.dataRow [some [49]], .commandComplete "SELECT 1",
        .readyForQuery .idle]
      c.status = .streaming 1 columns ∧ Remainder columns.length ms ∧ Awaiting ms c ∧
        (timedStatement settle c).1 = .ok () ∧ Refuses "SELECT 2" [] c ∧
        ¬Refuses "SELECT 2" [] (timedStatement settle c).2 := by
  intro columns
  have carried : ∀ m ∈ [BackendMessage.dataRow [some [49]], .commandComplete "SELECT 1",
      .commandComplete "BEGIN", .readyForQuery .inTransaction, .readyForQuery .idle],
      m.Carried := by
    intro m hm
    simp only [List.mem_cons, List.not_mem_nil, or_false] at hm
    rcases hm with rfl | rfl | rfl | rfl | rfl <;>
      exact ⟨trivial, .of_body (by decide) (by decide) rfl (by decide)⟩
  constructor
  · intro c ms
    have awaits : Awaiting ms c :=
      awaiting_of_buffered (fun m hm => carried m (by revert m; decide)) (by decide +kernel)
    exact ⟨by decide +kernel, .row rfl (.completed _ (.passed rfl (.ready _))), awaits,
      by decide +kernel, by decide +kernel, by decide +kernel⟩
  · intro c ms
    have awaits : Awaiting ms c :=
      awaiting_of_buffered (fun m hm => carried m (by revert m; decide)) (by decide +kernel)
    exact ⟨by decide +kernel, .row rfl (.completed _ (.ready _)), awaits,
      by decide +kernel, by decide +kernel, by decide +kernel⟩

end Connection

end SqlWire
