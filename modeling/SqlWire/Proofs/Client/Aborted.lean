import SqlWire.Proofs.Client.Reading
import SqlWire.Proofs.Client.Rows

/-!
# Failed transactions

A transaction that failed stays failed until it is ended, and its statements are refused without
a word to the server. One operation may lose it on the way: a ping believes whatever status the
server ends its answer with, also where the connection was stricter than the server.
-/

namespace SqlWire

def Operation.endsTransaction : Operation → Bool
  | .commit | .commitScope _ | .rollback | .rollbackScope _ | .dropScope _ | .close => true
  | .execute sql _ | .executeIn _ sql _ | .executeOn _ sql _ =>
    (SqlKind.ofText sql).endsTransaction
  | _ => false

namespace Connection

variable {σ : Type}

/-- The transaction has failed, and no rows are on their way. -/
structure Aborted (c : Connection σ) : Prop where
  failed : c.transaction = .failed
  resting : c.status = .ready ∨ c.status = .broken

def rejection (c : Connection σ) : ClientError :=
  if c.isUsable then .transactionAborted else .connectionClosed

def Believes (status : TransactionStatus) (c : Connection σ) : Prop :=
  c.status = .ready ∧ c.transaction = .ofStatus status

namespace Aborted

variable {c d : Connection σ}

theorem within (h : c.Aborted) (ht : d.transaction = c.transaction) (hs : d.status = c.status) :
    d.Aborted :=
  ⟨ht.trans h.failed, hs ▸ h.resting⟩

theorem alike (h : c.Aborted) (ha : Alike c d) : d.Aborted :=
  h.within ha.transaction ha.status

theorem not_streaming (h : c.Aborted) : c.isStreaming = false := by
  unfold isStreaming
  rcases h.resting with hs | hs
  · simp [hs]
  · simp [hs]

end Aborted

variable [Channel σ] {c d : Connection σ}

theorem Aborted.markBroken (h : c.Aborted) : c.markBroken.Aborted := by
  unfold Connection.markBroken
  split
  · exact ⟨by simp [h.failed], .inr rfl⟩
  · exact h

theorem Aborted.started (h : c.Aborted) (limit : Option Duration) :
    (c.started limit).Aborted := by
  cases limit with
  | none => exact h.within rfl rfl
  | some limit => exact h.within rfl rfl

theorem Aborted.breaks (h : c.Aborted) (hb : Breaks c d) : d.Aborted := by
  obtain ⟨e, ha, -, rfl⟩ := hb
  exact (h.alike ha).markBroken

theorem send_aborted (messages : List FrontendMessage) :
    Ensures (Aborted (σ := σ)) (send messages) (fun _ => Aborted) (fun _ => Aborted) :=
  send_ensures messages (fun h => h) (fun _ h => h.within rfl rfl) Aborted.markBroken

theorem settle_aborted (h : c.Aborted) : settle c = (.ok (), c) := by
  unfold settle
  rw [bind_apply, get_apply]
  simp only [h.not_streaming]
  rfl

/-- A failed transaction takes no statement but one that ends it. -/
theorem execute_aborted (h : c.Aborted) (sql : String) (params : List Value)
    (hsql : (SqlKind.ofText sql).endsTransaction = false) :
    execute sql params c = (.error c.rejection, c) := by
  have refused : (ensureAccepted (SqlKind.ofText sql) : Action σ Unit) c =
      (.error .transactionAborted, c) := by
    unfold ensureAccepted
    rw [bind_apply, get_apply]
    simp only [h.failed, hsql]
    rfl
  unfold execute rejection
  rw [bind_apply, ensureUsable_apply]
  cases c.isUsable with
  | false => rfl
  | true =>
      change (ensureAccepted (SqlKind.ofText sql) >>= _ : Action σ Submitted) c = _
      rw [bind_apply, refused]
      rfl

omit [Channel σ] in
theorem usable_aborted :
    Ensures (Aborted (σ := σ)) ensureUsable (fun _ => Aborted) (fun _ => Aborted) :=
  ensureUsable_ensures.mono (fun _ h => h) (fun _ _ h => h.1) fun _ _ h => h.1

/-- No other transaction is begun. -/
theorem begin_aborted (sql : String) :
    Ensures (Aborted (σ := σ)) (begin sql) (fun _ _ => False) (fun _ => Aborted) := by
  refine usable_aborted.bind fun _ => Ensures.of_each fun c hc => Ensures.of_eq hc ?_
  refine ⟨fun d hd => (timed_ensures (fun c h => Aborted.started h _) ?_).run d hd⟩
  refine ⟨fun e he => ?_⟩
  rw [bind_apply, settle_aborted he]
  dsimp only
  rw [bind_apply, get_apply]
  simp only [he.failed]
  exact he.within rfl rfl

omit [Channel σ] in
theorem setAutocommit_aborted (on : Bool) :
    Ensures (Aborted (σ := σ)) (setAutocommit on) (fun _ => Aborted) (fun _ => Aborted) := by
  refine usable_aborted.bind fun _ => Ensures.get_bind fun c h => ?_
  rw [if_pos (by simp [h.failed])]
  exact Ensures.of_eq h (Ensures.throw fun _ h => h)

/-- There are no rows to be had. -/
theorem nextRow_aborted (h : c.Aborted) (id : Nat) : (nextRow id c).2 = c := by
  unfold nextRow
  rw [bind_apply, get_apply]
  rcases h.resting with hs | hs
  · simp only [hs]
    rfl
  · simp only [hs]
    rfl

def reported? (c : Connection σ) : Option TransactionStatus :=
  match _h : receive c with
  | (.error _, _) => none
  | (.ok m, c') =>
    match m with
    | .readyForQuery status => some status
    | _ => reported? c'
termination_by c.backlog
decreasing_by exact receive_backlog _h

def answered? (sql : String) (c : Connection σ) : Option TransactionStatus :=
  match send [.query sql] c with
  | (.error _, _) => none
  | (.ok (), c) => c.reported?

def pinged? (c : Connection σ) : Option TransactionStatus :=
  (c.started c.statementTimeout).answered? ""

theorem reported_ready {status : TransactionStatus}
    (hr : receive c = (.ok (.readyForQuery status), d)) : c.reported? = some status := by
  rw [reported?]
  split
  · next h => cases hr.symm.trans h
  · next h =>
      cases hr.symm.trans h
      rfl

theorem reported_onward {m : BackendMessage} (hr : receive c = (.ok m, d))
    (hm : ∀ status, m ≠ .readyForQuery status) : c.reported? = d.reported? := by
  rw [reported?]
  split
  · next h => cases hr.symm.trans h
  · next h =>
      cases hr.symm.trans h
      split
      · exact absurd rfl (hm _)
      · rfl

/-- At the end of a command's answer the connection believes the status that the server reports. -/
theorem converse_aborted (answer : Answer) (h : c.Aborted) :
    (converse commandTurn throw answer c).2.Aborted ∨
      ∃ status ∈ c.reported?, Believes status (converse commandTurn throw answer c).2 := by
  fun_induction converse commandTurn throw answer c with
  | case1 answer c e c' hr => exact .inl (h.breaks ((receive_reads c).error rfl hr))
  | case2 answer c m c' hr next hn ih =>
      obtain ⟨ms, -, hread⟩ := (receive_reads c).ok rfl hr
      have hm (status : TransactionStatus) : m ≠ .readyForQuery status := by
        rintro rfl
        cases hn
      rw [reported_onward hr hm]
      exact ih (h.alike hread.frame)
  | case3 answer c m c' hr action hn =>
      obtain ⟨ms, -, hread⟩ := (receive_reads c).ok rfl hr
      cases m with
      | readyForQuery status =>
          refine .inr ⟨status, reported_ready hr, ?_⟩
          cases hn
          cases answer.error with
          | none => exact ⟨rfl, rfl⟩
          | some report => exact ⟨rfl, rfl⟩
      | commandComplete | errorResponse | rowDescription | dataRow | emptyQueryResponse => cases hn
      | _ =>
          cases hn
          exact .inl (h.alike hread.frame).markBroken

theorem command_aborted (sql : String) (h : c.Aborted) :
    (command sql c).2.Aborted ∨
      ∃ status ∈ c.answered? sql, Believes status (command sql c).2 := by
  have hs := (send_aborted [.query sql]).run c h
  unfold command answered?
  rw [bind_apply]
  rcases hr : send [.query sql] c with ⟨e | u, d⟩
  · rw [hr] at hs
    exact .inl hs
  · rw [hr] at hs
    exact converse_aborted {} hs

theorem ping_asks (h : c.Aborted) (hu : c.isUsable = true) :
    (ping c).2 = { (command "" (c.started c.statementTimeout)).2 with deadline := none } := by
  unfold ping
  rw [bind_apply, ensureUsable_apply, hu]
  change (timed c.statementTimeout _ c).2 = _
  rw [timed_apply, bind_apply, settle_aborted (h.started _)]
  dsimp only
  rw [bind_apply]
  rcases command "" (c.started c.statementTimeout) with ⟨e | tag, d⟩
  · rfl
  · rfl

/-- A ping leaves the transaction failed, unless the server reports another status. -/
theorem ping_aborted (h : c.Aborted) :
    (ping c).2.Aborted ∨ ∃ status ∈ c.pinged?, Believes status (ping c).2 := by
  cases hu : c.isUsable with
  | false =>
      have refused : ping c = (.error .connectionClosed, c) := refuses hu
      rw [refused]
      exact .inl h
  | true =>
      rw [ping_asks h hu]
      exact (command_aborted "" (h.started _)).imp (fun hd => hd.within rfl rfl) id

end Connection

theorem Cursor.execute_aborted {σ : Type} [Channel σ] {c : Connection σ} (h : c.Aborted)
    (k : Cursor) (sql : String) (params : List Value)
    (hsql : (SqlKind.ofText sql).endsTransaction = false) :
    (Cursor.execute sql params (k, c)).1 =
        .error (if k.state = .closed then .connectionClosed else c.rejection) ∧
      (Cursor.execute sql params (k, c)).2.2 = c := by
  unfold Cursor.execute
  dsimp only
  split
  · exact ⟨rfl, rfl⟩
  · rw [Connection.execute_aborted h sql params hsql]
    exact ⟨rfl, rfl⟩

namespace Desk

variable {σ : Type} [Channel σ] {d : Desk σ}

def rejection? (d : Desk σ) : Operation → Option Outcome
  | .execute .. => some (.failed d.connection.rejection)
  | .executeIn scope .. =>
    some (if d.scopes.contains scope then .failed d.connection.rejection else .absent)
  | .executeOn cursor .. =>
    some (match d.cursor? cursor with
      | none => .absent
      | some k =>
        .failed (if k.state = .closed then .connectionClosed else d.connection.rejection))
  | _ => none

/-- A statement of a failed transaction is refused, and the connection stays as it is. -/
theorem perform_rejects (h : d.connection.Aborted) {operation : Operation} {outcome : Outcome}
    (ho : operation.endsTransaction = false) (hr : d.rejection? operation = some outcome) :
    (d.perform operation).1 = outcome ∧ (d.perform operation).2.connection = d.connection := by
  cases operation with
  | execute sql params =>
      cases hr
      rw [perform]
      unfold run
      rw [Connection.execute_aborted h sql params ho]
      exact ⟨rfl, rfl⟩
  | executeIn scope sql params =>
      cases hr
      rw [perform]
      split
      · unfold run
        rw [Connection.execute_aborted h sql params ho]
        exact ⟨rfl, rfl⟩
      · exact ⟨rfl, rfl⟩
  | executeOn cursor sql params =>
      cases hr
      rw [perform]
      unfold runCursor
      cases d.cursor? cursor with
      | none => exact ⟨rfl, rfl⟩
      | some k =>
          have he := Cursor.execute_aborted h k sql params ho
          dsimp only
          rcases hr : Cursor.execute sql params (k, d.connection) with ⟨e | u, k', c⟩
          · rw [hr] at he
            obtain ⟨hk, hc⟩ := he
            cases hk
            exact ⟨rfl, hc⟩
          · rw [hr] at he
            cases he.1
  | _ => cases hr

theorem beginScope_aborted (h : d.connection.Aborted) (scope : String) (level : Isolation) :
    (d.beginScope scope level).2.connection.Aborted := by
  have hb := (Connection.begin_aborted level.sql).run d.connection h
  unfold beginScope
  rcases hr : Connection.begin level.sql d.connection with ⟨e | u, c⟩
  · rw [hr] at hb
    exact hb
  · rw [hr] at hb
    cases hb

/-- What does not end the transaction leaves it failed, but for a ping that the server answers
with another status. -/
theorem perform_aborted (h : d.connection.Aborted) {operation : Operation}
    (ho : operation.endsTransaction = false)
    (hp : operation = .ping → ∀ status ∈ d.connection.pinged?, status = .failed) :
    (d.perform operation).2.connection.Aborted := by
  cases operation with
  | beginScope scope level => exact beginScope_aborted h scope level
  | ping =>
      rw [perform, run_connection]
      obtain hd | ⟨status, hs, hb⟩ := Connection.ping_aborted h
      · exact hd
      · rw [hp rfl status hs] at hb
        exact ⟨hb.2, .inl hb.1⟩
  | execute sql params | executeIn scope sql params | executeOn cursor sql params =>
      refine perform_called d _ (fun call hc c hd => ?_) h
      cases hc
      change (Connection.execute sql params c).2.Aborted
      rw [Connection.execute_aborted hd sql params ho]
      exact hd
  | fetch | fetchMany | fetchAll | visit =>
      refine perform_called d _ (fun call hc c hd => ?_) h
      obtain ⟨k, id, -, -, rfl⟩ := hc
      change (Connection.nextRow id c).2.Aborted
      rw [Connection.nextRow_aborted hd id]
      exact hd
  | setAutocommit on =>
      refine perform_called d _ (fun call hc c hd => ?_) h
      cases hc
      exact (Connection.setAutocommit_aborted on).state hd
  | setStatementTimeout limit => exact h.within rfl rfl
  | commit | commitScope | rollback | rollbackScope | dropScope | close => cases ho
  | _ => exact perform_called d _ (fun _ hc => hc.elim) h

theorem performAll_aborted (h : d.connection.Aborted) {operations : List Operation}
    (ho : ∀ operation ∈ operations, operation.endsTransaction = false)
    (hp : ∀ n, operations[n]? = some .ping →
      ∀ status ∈ (d.performAll (operations.take n)).2.connection.pinged?, status = .failed) :
    (d.performAll operations).2.connection.Aborted := by
  induction operations generalizing d with
  | nil => exact h
  | cons operation operations ih =>
      have first : (d.perform operation).2.connection.Aborted :=
        perform_aborted h (ho operation List.mem_cons_self) fun hping => hp 0 (by rw [hping]; rfl)
      exact ih first (fun o hm => ho o (List.mem_cons_of_mem _ hm)) fun n hn => hp (n + 1) hn

/-- A transaction that failed stays failed, whatever is done that does not end it, as long as the
server answers every ping with that status. All the while each statement is refused at once, and
the connection and its channel stay as they are. -/
theorem failure_lasts (d : Desk σ) (operations : List Operation)
    (ready : d.connection.status = .ready) (failed : d.connection.transaction = .failed)
    (ends : ∀ operation ∈ operations, operation.endsTransaction = false)
    (pings : ∀ n, operations[n]? = some .ping →
      ∀ status ∈ (d.performAll (operations.take n)).2.connection.pinged?, status = .failed) :
    let e := (d.performAll operations).2
    e.connection.transaction = .failed ∧
      (e.connection.status = .ready ∨ e.connection.status = .broken) ∧
      ∀ operation outcome, operation.endsTransaction = false →
        e.rejection? operation = some outcome →
        (e.perform operation).1 = outcome ∧
          (e.perform operation).2.connection = e.connection := by
  intro e
  have h : e.connection.Aborted := performAll_aborted ⟨failed, .inl ready⟩ ends pings
  exact ⟨h.failed, h.resting, fun operation outcome => perform_rejects h⟩

end Desk

/-- A server that refuses a commit, takes the transaction to be over, and answers one more query
with the given status. -/
def Script.refusingCommit (status : TransactionStatus) : Script :=
  .saying [
    .readyForQuery .idle,
    .commandComplete "BEGIN",
    .readyForQuery .inTransaction,
    .errorResponse ⟨"ERROR", "40001", "could not serialize access", none⟩,
    .readyForQuery .idle,
    .emptyQueryResponse,
    .readyForQuery status]

namespace Desk

def refused (status : TransactionStatus) : Desk Script :=
  (Desk.performAll { connection := (Connection.connect {} (.refusingCommit status)).2 }
    [.beginScope "t" .serverDefault, .commitScope "t"]).2

theorem failure_lasts_pinged :
    let operations : List Operation := [.execute "SELECT 1" [], .ping]
    let e := ((refused .failed).performAll operations).2
    ((refused .failed).connection.status = .ready ∧
      (refused .failed).connection.transaction = .failed ∧
      (refused .failed).connection.pinged? = some .failed) ∧
    e.connection.transaction = .failed ∧
      (e.connection.status = .ready ∨ e.connection.status = .broken) ∧
      ∀ operation outcome, operation.endsTransaction = false →
        e.rejection? operation = some outcome →
        (e.perform operation).1 = outcome ∧
          (e.perform operation).2.connection = e.connection :=
  ⟨by decide +kernel, failure_lasts (refused .failed) [.execute "SELECT 1" [], .ping]
    (by decide +kernel) (by decide +kernel) (by decide +kernel) fun n hn => by
      match n with
      | 0 => cases hn
      | 1 => decide +kernel
      | n + 2 => cases hn⟩

/-- Without the condition on pings the transaction is lost: after a refused commit the server
takes itself to be in no transaction, and the connection believes it. -/
theorem ping_forgets_failure :
    (refused .idle).connection.status = .ready ∧
      (refused .idle).connection.transaction = .failed ∧
      ((refused .idle).perform .ping).2.connection.transaction = .idle := by
  decide +kernel

end Desk

end SqlWire
