import SqlWire.Proofs.Client.Invariants

/-!
# The parts of the operations

Every operation of a connection is put together from a few exchanges with the server: a result is
read to its end, a command or a statement is sent and answered, rows are read, the client takes
its leave. A predicate that these parts keep is an invariant of the connection.
-/

namespace SqlWire.Connection

variable {σ : Type} [Channel σ] {α : Type}

/-- The two connections differ in nothing that was said or read: at most the clock was read, and
the connection changed its own account of limits and of the transaction. It takes no transaction
to be open that it did not take to be open before. -/
structure Aside (c c' : Connection σ) : Prop where
  channel : c'.channel = c.channel ∨ c'.channel = (Channel.now c.channel).2
  buffer : c'.buffer = c.buffer
  status : c'.status = c.status
  nextResult : c'.nextResult = c.nextResult
  autocommit : c'.autocommit = c.autocommit
  transaction : c'.transaction = c.transaction ∨ c'.transaction ≠ .active

theorem aside_started (limit : Option Duration) (c : Connection σ) : Aside c (c.started limit) := by
  cases limit with
  | none => exact ⟨.inl rfl, rfl, rfl, rfl, rfl, .inl rfl⟩
  | some d => exact ⟨.inr rfl, rfl, rfl, rfl, rfl, .inl rfl⟩

theorem aside_failTransaction (c : Connection σ) : Aside c c.failTransaction := by
  unfold failTransaction
  split
  · exact ⟨.inl rfl, rfl, rfl, rfl, rfl, .inl rfl⟩
  · exact ⟨.inl rfl, rfl, rfl, rfl, rfl, .inr nofun⟩

variable [Watched σ]

def submit (sql : String) (params : List Value) : Action σ Submitted := do
  send (statementMessages sql params)
  converse statementTurn throw {}

def shut (c : Connection σ) : Connection σ :=
  { become .closed { c with channel := (Channel.close c.channel).2 } with
    transaction := .idle
    buffer := [] }

inductive IsCommand : String → Prop
  | ping : IsCommand ""
  | begin (level : Isolation) : IsCommand level.sql
  | commit : IsCommand "COMMIT"
  | rollback : IsCommand "ROLLBACK"

/-- The exchanges with a server keep `P`, but for the statements of the caller; between two of
them `R` holds. -/
structure Exchanging (pulled : Nat → Prop) (P R : Connection σ → Prop) : Prop where
  weaken : ∀ {c}, R c → P c
  ready : ∀ {c}, P c → c.status = .ready → R c
  aside : ∀ {c c'}, P c → Aside c c' → P c'
  aside_ready : ∀ {c c'}, R c → Aside c c' → R c'
  settle : Ensures (fun c => P c ∧ c.isUsable = true) settle (fun _ => R) (fun _ => P)
  command : ∀ sql, IsCommand sql → Ensures R (command sql) (fun _ => R) (fun _ => P)
  pull : ∀ id columns, pulled id → Ensures (fun c => P c ∧ c.status = .streaming id columns)
    (converse (pullTurn columns) failStream {}) (fun _ => P) (fun _ => P)

structure Parts (pulled : Nat → Prop) (P R : Connection σ → Prop) : Prop
    extends Exchanging pulled P R where
  any : ∀ sql, Ensures R (Connection.command sql) (fun _ => R) (fun _ => P)
  statement : ∀ sql params, Ensures R (submit sql params) (fun _ => P) (fun _ => P)
  switch : ∀ {c} on, P c → P { c with autocommit := on }
  terminate : ∀ {c}, P c → c.isUsable = true → P (send [.terminate] c).2
  shut : ∀ {c}, P c → P c.shut

/-- An operation that begins in `O` finds `P` when its time limit starts. Its exchanges with the
server keep `P`, and between two of them `R` holds; when it is done, `F` does. -/
structure Bracketed (pulled : Nat → Prop) (O P R F : Connection σ → Prop) : Prop where
  idle : ∀ {c}, O c → F c
  starts : ∀ {c}, O c → c.isUsable = true → P (c.started c.statementTimeout)
  stops : ∀ {c}, P c → F { c with deadline := none }
  weaken : ∀ {c}, R c → P c
  ready : ∀ {c}, P c → c.status = .ready → R c
  leaving : ∀ {c state}, P c → state ≠ .active → P { c with transaction := state }
  left : ∀ {c state}, F c → state ≠ .active → F { c with transaction := state }
  settle : Ensures (fun c => P c ∧ c.isUsable = true) settle (fun _ => R) (fun _ => P)
  command : ∀ sql, IsCommand sql → Ensures R (command sql) (fun _ => R) (fun _ => P)
  pull : ∀ id columns, pulled id → Ensures (fun c => P c ∧ c.status = .streaming id columns)
    (converse (pullTurn columns) failStream {}) (fun _ => P) (fun _ => P)

omit [Watched σ] in
theorem started_status (limit : Option Duration) (c : Connection σ) :
    (c.started limit).status = c.status :=
  (aside_started limit c).status

section

variable {O F : Connection σ → Prop} (idle : ∀ c, O c → F c)
include idle

omit [Channel σ] [Watched σ] in
theorem ensureUsable_or :
    Ensures O ensureUsable (fun _ c => O c ∧ c.isUsable = true) (fun _ => F) :=
  ensureUsable_ensures.mono (fun _ h => h) (fun _ _ h => h) fun _ _ h => idle _ h.1

omit [Channel σ] [Watched σ] in
theorem setAutocommit_ensures {on : Bool} (hs : ∀ c, O c → F { c with autocommit := on }) :
    Ensures O (setAutocommit on) (fun _ => F) (fun _ => F) := by
  unfold setAutocommit
  refine (ensureUsable_or idle).bind fun _ => Ensures.get_bind fun c hc => ?_
  split
  · exact Ensures.of_eq hc.1 (Ensures.throw fun _ h => idle _ h)
  · exact Ensures.of_eq hc.1 (Ensures.modify hs)

end

namespace Bracketed

section

variable {pulled : Nat → Prop} {O P R F S : Connection σ → Prop}
  (hB : Bracketed pulled O P R F)
include hB

/-- An action under the time limit for statements, for a usable connection. -/
theorem limited {action : Action σ α} (usable : ∀ {c}, S c → c.isUsable = true)
    (status : ∀ {c c'}, S c → c'.status = c.status → S c')
    (h : Ensures (fun c => P c ∧ S c) action (fun _ => P) (fun _ => P)) :
    Ensures (fun c => O c ∧ S c) (timedStatement action) (fun _ => F) (fun _ => F) := by
  constructor
  intro c hc
  have start : P (c.started c.statementTimeout) ∧ S (c.started c.statementTimeout) :=
    ⟨hB.starts hc.1 (usable hc.2), status hc.2 (started_status _ c)⟩
  have ends := h.run _ start
  unfold timedStatement
  rw [timed_apply]
  generalize action (c.started c.statementTimeout) = r at ends ⊢
  obtain ⟨e | a, d⟩ := r
  · exact hB.stops ends
  · exact hB.stops ends

/-- An exchange of a usable connection under the time limit for statements. -/
theorem exchange {action : Action σ α}
    (h : Ensures (fun c => P c ∧ c.isUsable = true) action (fun _ => P) (fun _ => P)) :
    Ensures (fun c => O c ∧ c.isUsable = true) (timedStatement action) (fun _ => F)
      (fun _ => F) :=
  hB.limited (S := (·.isUsable = true)) id (fun h hs => (isUsable_of_status hs).trans h) h

theorem execute_ends {sql : String} {params : List Value}
    (submitted : Ensures R (submit sql params) (fun _ => P) (fun _ => P)) :
    Ensures O (execute sql params) (fun _ => F) (fun _ => F) := by
  unfold execute
  refine (ensureUsable_or fun _ => hB.idle).bind fun _ => ?_
  refine (ensureAccepted_keeps _ fun _ _ h => hB.idle h.1).bind fun _ => hB.exchange ?_
  refine hB.settle.bind fun _ => ?_
  refine (ensureAccepted_keeps (P := R) _ fun _ _ h => hB.weaken h).bind fun _ => ?_
  refine Ensures.get_bind fun c hc => ?_
  split
  · exact Ensures.of_eq hc ((hB.command "BEGIN" (.begin .serverDefault)).bind
      fun _ => submitted)
  · exact Ensures.of_eq hc submitted

theorem nextRow_ends (id : Nat) (hid : pulled id) :
    Ensures O (nextRow id) (fun _ => F) (fun _ => F) := by
  unfold nextRow
  refine Ensures.get_bind fun c hc => ?_
  cases hs : c.status with
  | ready => exact Ensures.of_eq hc (Ensures.pure fun _ h => hB.idle h)
  | broken | closed => exact Ensures.of_eq hc (Ensures.throw fun _ h => hB.idle h)
  | streaming current columns =>
      dsimp only
      split
      · next hcurrent =>
          subst hcurrent
          exact Ensures.of_eq (P := fun c => O c ∧ c.status = .streaming current columns)
            ⟨hc, hs⟩ (hB.limited (fun h => by simp [isUsable, h]) (fun h hs => hs.trans h)
              (hB.pull current columns hid))
      · exact Ensures.of_eq hc (Ensures.pure fun _ h => hB.idle h)

theorem command_done {sql : String} (hs : IsCommand sql) :
    Ensures R (Connection.command sql) (fun _ => P) (fun _ => P) :=
  (hB.command sql hs).mono (fun _ h => h) (fun _ _ h => hB.weaken h) fun _ _ h => h

theorem begin_ends {sql : String}
    (hs : Ensures R (Connection.command sql) (fun _ => R) (fun _ => P)) :
    Ensures O (begin sql) (fun _ => F) (fun _ => F) := by
  unfold begin
  refine (ensureUsable_or fun _ => hB.idle).bind fun _ => hB.exchange (hB.settle.bind fun _ => ?_)
  refine Ensures.get_bind fun c hc => ?_
  split
  · exact Ensures.of_eq hc (Ensures.throw fun _ h => hB.weaken h)
  · exact Ensures.of_eq hc (hs.bind fun _ => Ensures.pure fun _ h => hB.weaken h)

theorem ping_ends : Ensures O ping (fun _ => F) (fun _ => F) := by
  unfold ping
  refine (ensureUsable_or fun _ => hB.idle).bind fun _ => hB.exchange (hB.settle.bind fun _ => ?_)
  exact (hB.command_done .ping).bind fun _ => Ensures.pure fun _ h => h

theorem commitSettled_keeps : Ensures R commitSettled (fun _ => P) (fun _ => P) := by
  have idled : Ensures R (Connection.leaving .idle (Connection.command "ROLLBACK"))
      (fun _ => P) (fun _ => P) :=
    leaving_ensures ((hB.command_done .rollback).mono (fun _ h => h)
      (fun _ _ h => hB.leaving h nofun) fun _ _ h => hB.leaving h nofun)
  have failed : Ensures R (failingTo .failed (Connection.command "COMMIT")) (fun _ => P)
      (fun _ => P) :=
    failingTo_ensures ((hB.command_done .commit).mono (fun _ h => h) (fun _ _ h => h)
      fun _ _ h => hB.leaving h nofun)
  unfold commitSettled
  refine Ensures.get_bind fun c hc => ?_
  cases c.transaction with
  | idle => exact Ensures.of_eq hc (Ensures.pure fun _ h => hB.weaken h)
  | failed => exact Ensures.of_eq hc (idled.bind fun _ => Ensures.throw fun _ h => h)
  | active => exact Ensures.of_eq hc (failed.bind fun _ => Ensures.pure fun _ h => h)

theorem commit_ends : Ensures O commit (fun _ => F) (fun _ => F) := by
  unfold commit
  refine (ensureUsable_or fun _ => hB.idle).bind fun _ => Ensures.get_bind fun c hc => ?_
  split
  · exact Ensures.of_eq hc.1 (Ensures.pure fun _ h => hB.idle h)
  · exact Ensures.of_eq (P := fun c => O c ∧ c.isUsable = true) hc
      (hB.exchange (hB.settle.bind fun _ => hB.commitSettled_keeps))

theorem rollback_ends : Ensures O rollback (fun _ => F) (fun _ => F) := by
  unfold rollback
  refine leaving_ensures ?_
  refine Ensures.mono (Q := fun _ => F) (E := fun _ => F) ?_ (fun _ h => h)
    (fun _ _ h => hB.left h nofun) fun _ _ h => hB.left h nofun
  refine (ensureUsable_or fun _ => hB.idle).bind fun _ => Ensures.get_bind fun c hc => ?_
  split
  · exact Ensures.of_eq hc.1 (Ensures.pure fun _ h => hB.idle h)
  · refine Ensures.of_eq (P := fun c => O c ∧ c.isUsable = true) hc
      (hB.exchange (hB.settle.bind fun _ => ?_))
    refine Ensures.get_bind fun c hc => ?_
    split
    · exact Ensures.of_eq hc ((hB.command_done .rollback).bind fun _ => Ensures.pure fun _ h => h)
    · exact Ensures.of_eq hc (Ensures.pure fun _ h => hB.weaken h)

theorem close_ends (terminate : ∀ {c}, F c → c.isUsable = true → F (send [.terminate] c).2)
    (shut : ∀ {c}, F c → F c.shut) (c : Connection σ) (hc : O c) : F c.close := by
  unfold close
  split
  · exact hB.idle hc
  have rolled : F (if c.status = .ready ∧ c.transaction ≠ .idle
      then (timedStatement (Connection.command "ROLLBACK") c).2 else c) := by
    split
    · next h =>
        have rollback : Ensures (fun c => O c ∧ c.status = .ready)
            (timedStatement (Connection.command "ROLLBACK")) (fun _ => F) (fun _ => F) :=
          hB.limited isUsable_of_ready (fun h hs => hs.trans h)
            ((hB.command_done .rollback).mono (fun _ h => hB.ready h.1 h.2) (fun _ _ h => h)
              fun _ _ h => h)
        exact rollback.state ⟨hc, h.1⟩
    · exact hB.idle hc
  dsimp only
  generalize (if c.status = .ready ∧ c.transaction ≠ .idle
    then (timedStatement (Connection.command "ROLLBACK") c).2 else c) = d at rolled ⊢
  split
  · next hu => exact shut (terminate rolled hu)
  · exact shut rolled

end

end Bracketed

namespace Exchanging

section

variable {pulled : Nat → Prop} {P R I : Connection σ → Prop} (hP : Exchanging pulled P R)
include hP

/-- What the clock and a connection's own account leave alone holds all the time. -/
theorem bracketed : Bracketed pulled P P R P where
  idle h := h
  starts h _ := hP.aside h (aside_started _ _)
  stops h := hP.aside h ⟨.inl rfl, rfl, rfl, rfl, rfl, .inl rfl⟩
  weaken := hP.weaken
  ready := hP.ready
  leaving h hs := hP.aside h ⟨.inl rfl, rfl, rfl, rfl, rfl, .inr hs⟩
  left h hs := hP.aside h ⟨.inl rfl, rfl, rfl, rfl, rfl, .inr hs⟩
  settle := hP.settle
  command := hP.command
  pull := hP.pull

theorem timedStatement_keeps {action : Action σ α} (hI : ∀ {c c'}, I c → Aside c c' → I c')
    (h : Ensures I action (fun _ => P) (fun _ => P)) :
    Ensures I (timedStatement action) (fun _ => P) (fun _ => P) := by
  have timed (limit : Option Duration) : Ensures I (timed limit action) (fun _ => P)
      (fun _ => P) := by
    refine timed_ensures (fun c hc => hI hc (aside_started limit c)) ?_
    exact h.mono (fun _ h => h) (fun _ _ h => hP.aside h ⟨.inl rfl, rfl, rfl, rfl, rfl, .inl rfl⟩)
      fun _ _ h => hP.aside h ⟨.inl rfl, rfl, rfl, rfl, rfl, .inl rfl⟩
  exact ⟨fun c hc => (timed c.statementTimeout).run c hc⟩

theorem execute_keeps {sql : String} {params : List Value}
    (submitted : Ensures R (submit sql params) (fun _ => P) (fun _ => P)) :
    Ensures P (execute sql params) (fun _ => P) (fun _ => P) :=
  hP.bracketed.execute_ends submitted

theorem nextRow_keeps (id : Nat) (hid : pulled id) :
    Ensures P (nextRow id) (fun _ => P) (fun _ => P) :=
  hP.bracketed.nextRow_ends id hid

theorem command_done {sql : String} (hs : IsCommand sql) :
    Ensures R (Connection.command sql) (fun _ => P) (fun _ => P) :=
  hP.bracketed.command_done hs

theorem begin_keeps {sql : String}
    (hs : Ensures R (Connection.command sql) (fun _ => R) (fun _ => P)) :
    Ensures P (begin sql) (fun _ => P) (fun _ => P) :=
  hP.bracketed.begin_ends hs

theorem ping_keeps : Ensures P ping (fun _ => P) (fun _ => P) :=
  hP.bracketed.ping_ends

omit [Channel σ] [Watched σ] hP in
theorem setAutocommit_keeps {on : Bool} (hs : ∀ c, P c → P { c with autocommit := on }) :
    Ensures P (setAutocommit on) (fun _ => P) (fun _ => P) :=
  setAutocommit_ensures (fun _ h => h) hs

theorem commit_keeps : Ensures P commit (fun _ => P) (fun _ => P) :=
  hP.bracketed.commit_ends

theorem rollback_keeps : Ensures P rollback (fun _ => P) (fun _ => P) :=
  hP.bracketed.rollback_ends

theorem setStatementTimeout_keeps (limit : Option Duration) (c : Connection σ) (hc : P c) :
    P { c with statementTimeout := limit } :=
  hP.aside hc ⟨.inl rfl, rfl, rfl, rfl, rfl, .inl rfl⟩

theorem close_keeps (terminate : ∀ {c}, P c → c.isUsable = true → P (send [.terminate] c).2)
    (shut : ∀ {c}, P c → P c.shut) (c : Connection σ) (hc : P c) : P c.close :=
  hP.bracketed.close_ends terminate shut c hc

end

end Exchanging

/-- A predicate that the parts of the operations keep is kept by every operation. -/
theorem Parts.invariant {pulled : Nat → Prop} {P R : Connection σ → Prop}
    (hP : Parts pulled P R) : Invariant (fun _ => True) pulled P where
  execute sql params := hP.execute_keeps (hP.statement sql params)
  nextRow := hP.nextRow_keeps
  begin sql := hP.begin_keeps (hP.any sql)
  commit := hP.commit_keeps
  rollback := hP.rollback_keeps
  ping := hP.ping_keeps
  setAutocommit on := Exchanging.setAutocommit_keeps fun _ => hP.switch on
  close := hP.close_keeps hP.terminate hP.shut
  setStatementTimeout c limit _ := hP.setStatementTimeout_keeps limit c

end SqlWire.Connection
