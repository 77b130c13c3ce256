import SqlWire.Proofs.Joint.Agreement
import SqlWire.Proofs.Joint.Sheltering
import SqlWire.Proofs.Server.Beginnings

/-!
# What a client has prepared outside a transaction

Without autocommit, a client executes a statement only in a transaction that its session is in,
or one that begins or ends a transaction. So in every run of a client without autocommit, what
the session prepared outside a transaction is part of a text that leaves a transaction in front
of it.
-/

namespace SqlWire

open Session

/-- The statements of a text that come where no transaction is known to be open, if one was begun
for the text unless it is one to begin or end a transaction. -/
def Sql.bare (text : String) : List String :=
  exposed (!(SqlKind.ofText text).isTransactionControl) (statements text)

theorem Sql.exposed_bare {text sql : String} {inside : Bool}
    (h : (SqlKind.ofText text).isTransactionControl = true ∨ inside = true)
    (hs : sql ∈ exposed inside (statements text)) : sql ∈ bare text := by
  unfold bare
  cases hc : (SqlKind.ofText text).isTransactionControl with
  | true => exact exposed_mono _ hs
  | false =>
      rw [hc] at h
      rw [h.resolve_left Bool.false_ne_true] at hs
      exact hs

/-- A statement that ends a transaction is one of those that begin or end one. -/
theorem SqlKind.control_of_ends {kind : SqlKind} (h : kind.endsTransaction = true) :
    kind.isTransactionControl = true := by
  cases kind with
  | commit | rollback => rfl
  | _ => cases h

namespace Connection

section

variable {free : String → Prop} {base s : Session} {terms : Terms Loopback} {kind : SqlKind}
  {c : Connection Loopback}

/-- The connection is settled with a session that is inside a transaction, unless the statement is
one to begin or end a transaction. -/
def Guarded (terms : Terms Loopback) (kind : SqlKind) (c : Connection Loopback) : Prop :=
  ∃ s, Settled terms s c ∧ (kind.isTransactionControl = true ∨ s.inTransaction = true)

abbrev Manual (free : String → Prop) (base : Session) : Connection Loopback → Prop :=
  Steady free base false

/-- The session accepted to begin a transaction, or the client was told that it did not. -/
theorem command_guards (hi : s.inTransaction = false) :
    Ensures (fun c => Settled terms s c ∧ Manual free base c) (command "BEGIN")
      (fun _ c => Guarded terms kind c ∧ Manual free base c) (fun _ => Manual free base) := by
  refine Ensures.of_each fun c hc => ?_
  have hq : s.Quiet := hc.1.quiet
  refine Ensures.of_eq hc (((command_reported "BEGIN").and
    (command_steady (.begin .serverDefault))).mono (fun _ h => h) ?_ fun _ _ h => h.2)
  intro _ c h
  obtain ⟨⟨h, hr⟩, hm⟩ := h
  exact ⟨⟨_, h, .inr (begin_begins hq hi h.quiet hr)⟩, hm⟩

/-- What a statement of the client has prepared. -/
theorem submit_manual (sql : String) (params : List Value)
    (hf : params = [] → ∀ text ∈ Sql.bare sql, free text) :
    Ensures (fun c => Guarded terms (SqlKind.ofText sql) c ∧ Manual free base c)
      (submit sql params) (fun _ => Manual free base) (fun _ => Manual free base) := by
  refine Ensures.bind (send_steady (fun _ h => h.2) fun c bytes hc he => ?_)
    fun _ => readings_steady.statement fun _ h => ⟨h.sheltered, h.autocommit⟩
  obtain ⟨⟨s, hs, hguard⟩, hm⟩ := hc
  have hpeer : c.channel.session = s := hs.hears.peer
  have shielded := hm.sheltered.shielded
  rw [hpeer] at shielded ⊢
  by_cases hp : params.isEmpty = true
  · have hmessages : statementMessages sql params = [.query sql] := if_pos hp
    rw [hmessages, FrontendMessage.encodeAll_singleton] at he
    refine shielded.serve_query he fun text ht => ?_
    exact hf (List.isEmpty_iff.1 hp) text (Sql.exposed_bare hguard ht)
  · have hmessages : statementMessages sql params = _ := if_neg hp
    rw [hmessages] at he
    exact ⟨batch_shielded shielded hs.quiet hguard he, (batch_served hs.quiet he).2⟩

/-- A statement is run inside a transaction, unless it is one to begin or end a transaction. -/
theorem execute_manual (sql : String) (params : List Value)
    (hf : params = [] → ∀ text ∈ Sql.bare sql, free text) :
    Ensures (fun c => InOrder terms c ∧ Manual free base c) (execute sql params)
      (fun _ => Manual free base) (fun _ => Manual free base) := by
  have usable : Ensures (fun c => InOrder terms c ∧ Manual free base c) ensureUsable
      (fun _ c => Upright terms c ∧ Manual free base c) (fun _ => Manual free base) :=
    (ensureUsable_upright.and ensureUsable_ensures).mono (fun _ h => h)
      (fun _ _ h => ⟨h.1, h.2.1⟩) fun _ _ h => h.2.1
  have settles : Ensures (fun c => Upright terms c ∧ Manual free base c) settle
      (fun _ c => Calm terms c ∧ Manual free base c) (fun _ => Manual free base) :=
    (settle_calm.and settle_steady).mono (fun _ h => h) (fun _ _ h => h) fun _ _ h => h.2
  have accepts : Ensures (fun c => Calm terms c ∧ Manual free base c)
      (ensureAccepted (SqlKind.ofText sql)) (fun _ c => (Calm terms c ∧ Manual free base c) ∧
        (c.transaction = .failed → (SqlKind.ofText sql).endsTransaction = true))
      (fun _ => Manual free base) :=
    (ensureAccepted_ensures _).mono (fun _ h => h) (fun _ _ h => h) fun _ _ h => h.2
  unfold execute
  refine usable.bind fun _ => (ensureAccepted_keeps _ fun _ _ h => h.2).bind fun _ => ?_
  refine timedStatement_ensures (fun c hc => hc.1.limited) ?_ ?_ ?_ ?_
  · intro c channel deadline hc hloop hd
    obtain ⟨⟨s, hs⟩, hm⟩ := hc
    have hchannel : channel = c.channel := hloop
    subst hchannel
    exact ⟨⟨s, hs.over hloop hd⟩, hm.sheltered, hm.autocommit⟩
  · exact fun _ _ h => ⟨h.sheltered, h.autocommit⟩
  · exact fun _ _ h => ⟨h.sheltered, h.autocommit⟩
  refine settles.bind fun _ => accepts.bind fun _ => Ensures.get_bind fun c hc => ?_
  obtain ⟨⟨⟨s, hs⟩, hm⟩, haccepted⟩ := hc
  have submitted :
      Ensures (fun c => Guarded terms (SqlKind.ofText sql) c ∧ Manual free base c)
        (submit sql params) (fun _ => Manual free base) (fun _ => Manual free base) :=
    submit_manual sql params hf
  split
  · next h =>
      exact Ensures.of_eq ⟨hs, hm⟩ ((command_guards (hs.agree.idle h.2.1)).bind
        fun _ => submitted)
  · next h =>
      -- a transaction that has failed for the client may be over for the session, but then the
      -- statement is one to end it
      have hguard : (SqlKind.ofText sql).isTransactionControl = true ∨ s.inTransaction = true := by
        cases ht : c.transaction with
        | idle =>
            refine .inl ?_
            simpa [hm.autocommit, ht] using h
        | active => exact .inr (hs.agree.active.1 ht).1
        | failed => exact .inl (SqlKind.control_of_ends (haccepted ht))
      exact Ensures.of_eq ⟨⟨s, hs, hguard⟩, hm⟩ submitted

structure Orderly (free : String → Prop) (base : Session) (c : Connection Loopback) : Prop where
  inOrder : InOrder (Terms.any Loopback) c
  steady : Manual free base c

/-- The same connection, seen from where it is. -/
theorem Orderly.since (h : Orderly free base c) (free' : String → Prop) :
    Orderly free' c.peer c :=
  ⟨h.inOrder, ⟨⟨covered_refl free' _, h.steady.sheltered.shielded.met⟩,
    h.steady.sheltered.inbound⟩, h.steady.autocommit⟩

theorem Orderly.covered (h : Orderly free base c) : Covered free base c.peer :=
  h.steady.sheltered.shielded.covered

/-- Only a statement of the caller can have anything prepared outside a transaction, as long as
autocommit stays off. -/
theorem Orderly.called (h : Orderly free base c) {call : Call} (hon : call ≠ .setAutocommit true)
    (hf : ∀ sql, call = .execute sql [] → ∀ text ∈ Sql.bare sql, free text) :
    Orderly free base (c.called call) := by
  refine ⟨(inOrder_invariant (Terms.any Loopback)).called (fun _ _ _ _ => trivial)
    (fun _ _ => trivial) h.inOrder, ?_⟩
  have steady := h.steady
  cases call with
  | execute sql params =>
      exact (execute_manual sql params fun hp => hf sql (by rw [hp])).state ⟨h.inOrder, steady⟩
  | nextRow id => exact (exchanging_steady.nextRow_keeps id trivial).state steady
  | begin level =>
      exact (exchanging_steady.begin_keeps (command_steady (.begin level))).state steady
  | commit => exact exchanging_steady.commit_keeps.state steady
  | rollback => exact exchanging_steady.rollback_keeps.state steady
  | ping => exact exchanging_steady.ping_keeps.state steady
  | close =>
      exact exchanging_steady.close_keeps (fun h _ => terminate_steady h) shut_steady _ steady
  | setAutocommit on =>
      cases on with
      | true => exact absurd rfl hon
      | false =>
          exact (Exchanging.setAutocommit_keeps fun _ h => ⟨h.sheltered, rfl⟩).state steady
  | setStatementTimeout limit => exact exchanging_steady.setStatementTimeout_keeps limit _ steady

end

end Connection

/-! ## The run of a client -/

/-- The text that an operation executes as a query, which may be of several statements. -/
def Operation.query? : Operation → Option String
  | .execute sql [] | .executeIn _ sql [] | .executeOn _ sql [] => some sql
  | _ => none

namespace Desk

open Connection

section

variable {free : String → Prop} {base : Session} {d : Desk Loopback} {operation : Operation}

theorem Calls.switches {on : Bool} (h : d.Calls (.setAutocommit on) operation) :
    operation = .setAutocommit on := by
  cases operation <;> simp_all [Calls]

theorem Calls.queries {sql : String} (h : d.Calls (.execute sql []) operation) :
    operation.query? = some sql := by
  cases operation with
  | execute text params | executeIn scope text params | executeOn cursor text params =>
      cases h
      rfl
  | _ => simp [Calls] at h

/-- What an operation has prepared outside a transaction is exposed in the text that it executes.
Afterwards the connection has autocommit, or it is in order as before. -/
theorem perform_orderly (hd : Orderly free base d.connection)
    (hf : ∀ sql, operation.query? = some sql → ∀ text ∈ Sql.bare sql, free text) :
    Covered free base (d.perform operation).2.connection.peer ∧
      ((d.perform operation).2.connection.autocommit = false →
        Orderly free base (d.perform operation).2.connection) := by
  by_cases hon : operation = .setAutocommit true
  · subst hon
    rw [perform]
    refine run_keeps (P := fun c => Covered free base c.peer ∧
      (c.autocommit = false → Orderly free base c)) ?_ d _ ⟨hd.covered, fun _ => hd⟩
    exact Exchanging.setAutocommit_keeps fun _ h => ⟨h.1, by simp⟩
  · have next : Orderly free base (d.perform operation).2.connection := by
      refine perform_called d operation (fun call hc c h => h.called ?_ ?_) hd
      · intro hs
        subst hs
        exact hon hc.switches
      · intro sql hs
        subst hs
        exact hf sql hc.queries
    exact ⟨next.covered, fun _ => next⟩

/-- As long as autocommit stays off, what is prepared outside a transaction is exposed in a text
that the caller executes. -/
theorem performAll_orderly (operations : List Operation) (d : Desk Loopback)
    (hoff : ∀ n ≤ operations.length,
      (d.performAll (operations.take n)).2.connection.autocommit = false)
    (hf : ∀ operation ∈ operations, ∀ sql, operation.query? = some sql →
      ∀ text ∈ Sql.bare sql, free text)
    (hd : Orderly free base d.connection) :
    Orderly free base (d.performAll operations).2.connection := by
  induction operations generalizing d with
  | nil => exact hd
  | cons operation rest ih =>
      refine ih (d.perform operation).2 (fun n hn => hoff (n + 1) (by simpa using hn))
        (fun next hn => hf next (List.mem_cons_of_mem _ hn)) ?_
      exact (perform_orderly hd (hf operation List.mem_cons_self)).2 (hoff 1 (by simp))

theorem leave_orderly (hd : Orderly free base d.connection) : Orderly free base d.leave :=
  leave_called d (fun _ h => h.called (by simp) (by simp))
    (fun _ h => h.called (by simp) (by simp)) hd

end

/-- While a client without autocommit is connected to a session, the session prepares no
statement outside a transaction, but for those that the text which the client executes exposes:
the text begins with a statement that begins or ends a transaction, or an earlier one of its
statements ends the transaction that was begun for it. -/
theorem prepared_inside (options : ConnectOptions) (config : ServerConfig)
    (processId secretKey : Int32) (engine : Engine) (operations : List Operation)
    (operation : Operation) :
    let opened := Session.opened config processId secretKey engine
    let desk : Desk Loopback :=
      { connection := (connect options (Loopback.toSession opened)).2 }
    let d := (desk.performAll operations).2
    (connect options (Loopback.toSession opened)).1 = .ok () →
    (∀ n ≤ operations.length,
      (desk.performAll (operations.take n)).2.connection.autocommit = false) →
      Covered (fun _ => False) opened desk.connection.peer ∧
      Covered (fun text => ∃ sql, operation.query? = some sql ∧ text ∈ Sql.bare sql)
        d.connection.peer (d.perform operation).2.connection.peer ∧
      Covered (fun _ => False) d.connection.peer d.leave.peer := by
  intro opened desk d connected off
  have alone : opened.Alone := opened_alone config processId secretKey engine
  have start (free : String → Prop) : Orderly free opened desk.connection := by
    refine ⟨connect_inOrder alone rfl rfl trivial fun _ _ => trivial, ?_⟩
    have steady : Steady free opened options.autocommit desk.connection :=
      connect_steady alone rfl connected
    exact ⟨steady.sheltered, off 0 (Nat.zero_le _)⟩
  have run : Orderly (fun _ => True) opened d.connection :=
    performAll_orderly operations desk off (fun _ _ _ _ _ _ => trivial) (start _)
  refine ⟨(start _).covered, ?_, (leave_orderly (run.since _)).covered⟩
  exact (perform_orderly (run.since _) fun sql hs text ht => ⟨sql, hs, ht⟩).1

theorem accepting_lets_in : (connect {} Loopback.accepting).1 = .ok () :=
  ok_of_toBool (by decide +kernel)

theorem prepared_inside_inserted :
    let opened := Session.opened { databasePath := "db" } 1 2 { answers := [] }
    let desk : Desk Loopback := { connection := (connect {} (Loopback.toSession opened)).2 }
    let operations : List Operation := [.execute "INSERT INTO t VALUES (1)" []]
    let operation : Operation := .execute "INSERT INTO t VALUES (2); COMMIT" []
    let d := (desk.performAll operations).2
    (connect {} (Loopback.toSession opened)).1 = .ok () ∧
      (∀ n ≤ operations.length,
        (desk.performAll (operations.take n)).2.connection.autocommit = false) ∧
      Covered (fun _ => False) opened desk.connection.peer ∧
      Covered (fun text => ∃ sql, operation.query? = some sql ∧ text ∈ Sql.bare sql)
        d.connection.peer (d.perform operation).2.connection.peer ∧
      Covered (fun _ => False) d.connection.peer d.leave.peer :=
  ⟨accepting_lets_in, by decide +kernel, prepared_inside {} _ 1 2 _ _ _ accepting_lets_in
    (by decide +kernel)⟩

/-- The client takes a text for what its first statement is, so it begins no transaction for one
that begins with a commit, and the session prepares the statement behind the commit outside. -/
theorem prepared_outside_behind_commit :
    let opened := Session.opened { databasePath := "db" } 1 2 { answers := [] }
    let desk : Desk Loopback := { connection := (connect {} (Loopback.toSession opened)).2 }
    let c := (desk.perform (.execute "COMMIT; INSERT INTO t VALUES (1)" [])).2.connection
    (connect {} (Loopback.toSession opened)).1 = .ok () ∧
      desk.connection.autocommit = false ∧ c.autocommit = false ∧
      c.peer.engine.calls = [.step [], .prepare " INSERT INTO t VALUES (1)"] ++
        desk.connection.peer.engine.calls ∧
      ¬Covered (fun _ => False) desk.connection.peer c.peer := by
  intro opened desk c
  have made : c.peer.engine.calls = [.step [], .prepare " INSERT INTO t VALUES (1)"] ++
      desk.connection.peer.engine.calls := by decide +kernel
  refine ⟨accepting_lets_in, by decide +kernel, by decide +kernel, made, ?_⟩
  rintro ⟨calls, h⟩
  have recorded : calls.reverse = [.step [], .prepare " INSERT INTO t VALUES (1)"] :=
    List.append_cancel_right (h.recorded.symm.trans made)
  have hcalls : calls = [.prepare " INSERT INTO t VALUES (1)", .step []] :=
    List.reverse_eq_iff.1 recorded
  subst hcalls
  exact h.outside ⟨" INSERT INTO t VALUES (1)", false⟩ (by decide +kernel) rfl

end Desk

end SqlWire
