import SqlWire.Client.Desk
import SqlWire.Proofs.Triples

/-!
# Invariants of a connection

What a caller does with any number of cursors and scopes comes to calls of one connection:
`Desk.Calls` says which calls an operation is made of, and what these keep is kept by the
operation. So a predicate that every call keeps is kept by everything a caller can do. Fetching
may be restricted to some of the results: then it is enough that no cursor which is fetched from
holds another one.
-/

namespace SqlWire

namespace Connection

section

variable {σ : Type} {c c' : Connection σ}

theorem isUsable_of_status (h : c'.status = c.status) : c'.isUsable = c.isUsable := by
  unfold isUsable
  rw [h]

theorem isUsable_of_ready (h : c.status = .ready) : c.isUsable = true := by
  simp [isUsable, h]

theorem ready_of_usable (hu : c.isUsable = true) (hs : c.isStreaming = false) :
    c.status = .ready := by
  cases ht : c.status <;> simp_all [isStreaming, isUsable]

section

variable [Channel σ]

theorem markBroken_channel (c : Connection σ) : c.markBroken.channel = c.channel := by
  unfold markBroken
  split <;> rfl

variable [Watched σ]

theorem markBroken_unusable (c : Connection σ) : c.markBroken.isUsable = false := by
  unfold markBroken
  split
  · rfl
  · next h => simpa using h

theorem markBroken_markBroken (c : Connection σ) : c.markBroken.markBroken = c.markBroken :=
  if_neg (by simp [markBroken_unusable])

end

end

end Connection

variable {σ : Type} [Channel σ] [Watched σ] {α : Type}

namespace Connection

/-- Every operation of a connection keeps the predicate, if time limits are only set to what is
allowed and rows are only fetched from some of the results. -/
structure Invariant (allowed : Option Duration → Prop) (pulled : Nat → Prop)
    (P : Connection σ → Prop) : Prop where
  execute : ∀ sql params, Ensures P (execute sql params) (fun _ => P) (fun _ => P)
  nextRow : ∀ id, pulled id → Ensures P (nextRow id) (fun _ => P) (fun _ => P)
  begin : ∀ sql, Ensures P (begin sql) (fun _ => P) (fun _ => P)
  commit : Ensures P commit (fun _ => P) (fun _ => P)
  rollback : Ensures P rollback (fun _ => P) (fun _ => P)
  ping : Ensures P ping (fun _ => P) (fun _ => P)
  setAutocommit : ∀ on, Ensures P (setAutocommit on) (fun _ => P) (fun _ => P)
  close : ∀ c, P c → P c.close
  setStatementTimeout : ∀ c limit, allowed limit → P c → P { c with statementTimeout := limit }

inductive Call where
  | execute (sql : String) (params : List Value)
  | nextRow (id : Nat)
  | begin (level : Isolation)
  | commit
  | rollback
  | ping
  | close
  | setAutocommit (on : Bool)
  | setStatementTimeout (limit : Option Duration)
  deriving DecidableEq, Repr

def called (c : Connection σ) : Call → Connection σ
  | .execute sql params => (execute sql params c).2
  | .nextRow id => (nextRow id c).2
  | .begin level => (begin level.sql c).2
  | .commit => (commit c).2
  | .rollback => (rollback c).2
  | .ping => (ping c).2
  | .close => c.close
  | .setAutocommit on => (setAutocommit on c).2
  | .setStatementTimeout limit => { c with statementTimeout := limit }

def calledAll (c : Connection σ) (calls : List Call) : Connection σ :=
  calls.foldl called c

theorem calledAll_snoc (c : Connection σ) (calls : List Call) (call : Call) :
    c.calledAll (calls ++ [call]) = (c.calledAll calls).called call := by
  simp [calledAll]

theorem Invariant.called {allowed : Option Duration → Prop} {pulled : Nat → Prop}
    {P : Connection σ → Prop} (h : Invariant allowed pulled P) {call : Call}
    (ha : ∀ limit, call = .setStatementTimeout limit → allowed limit)
    (hp : ∀ id, call = .nextRow id → pulled id) {c : Connection σ} (hc : P c) :
    P (c.called call) := by
  cases call with
  | execute sql params => exact (h.execute sql params).state hc
  | nextRow id => exact (h.nextRow id (hp id rfl)).state hc
  | begin level => exact (h.begin level.sql).state hc
  | commit => exact h.commit.state hc
  | rollback => exact h.rollback.state hc
  | ping => exact h.ping.state hc
  | close => exact h.close c hc
  | setAutocommit on => exact (h.setAutocommit on).state hc
  | setStatementTimeout limit => exact h.setStatementTimeout c limit (ha limit rfl) hc

section

variable {P P' : Connection σ → Prop} {Q : α → Connection σ → Prop}
  {E : ClientError → Connection σ → Prop} {action : Action σ α}

omit [Channel σ] [Watched σ] in
theorem ensureUsable_apply (c : Connection σ) :
    ensureUsable c = (if c.isUsable then .ok () else .error .connectionClosed, c) := by
  unfold ensureUsable
  rw [bind_apply, get_apply]
  cases hu : c.isUsable with
  | true => simp only [hu]; rfl
  | false => simp only [hu]; rfl

omit [Channel σ] [Watched σ] in
/-- What needs a usable connection fails at once if there is none. -/
theorem refuses {f : Unit → Action σ α} {c : Connection σ} (hu : c.isUsable = false) :
    ((ensureUsable : Action σ Unit) >>= f) c = (.error .connectionClosed, c) := by
  rw [bind_apply, ensureUsable_apply, hu]
  rfl

omit [Channel σ] [Watched σ] in
theorem ensureUsable_ensures :
    Ensures P ensureUsable (fun _ c => P c ∧ c.isUsable = true)
      (fun _ c => P c ∧ c.isUsable = false) := by
  constructor
  intro c hc
  rw [ensureUsable_apply]
  cases hu : c.isUsable with
  | true => exact ⟨hc, hu⟩
  | false => exact ⟨hc, hu⟩

omit [Channel σ] [Watched σ] in
/-- Once the transaction has failed, only a statement that ends it is accepted. -/
theorem ensureAccepted_ensures (kind : SqlKind) :
    Ensures P (ensureAccepted kind)
      (fun _ c => P c ∧ (c.transaction = .failed → kind.endsTransaction = true)) (fun _ => P) := by
  refine Ensures.get_bind fun c hc => ?_
  split
  · exact Ensures.of_eq hc (Ensures.throw fun _ h => h)
  · next h =>
      refine Ensures.pure ?_
      intro _ hs
      subst hs
      exact ⟨hc, fun hf => by simpa [hf] using h⟩

omit [Channel σ] [Watched σ] in
theorem ensureAccepted_keeps (kind : SqlKind) (hE : ∀ e c, P c → E e c) :
    Ensures P (ensureAccepted kind) (fun _ => P) E :=
  (ensureAccepted_ensures kind).mono (fun _ h => h) (fun _ _ h => h.1) hE

def started (limit : Option Duration) (c : Connection σ) : Connection σ :=
  match limit with
  | none => { c with deadline := none }
  | some d => { c with
      channel := (Channel.now c.channel).2
      deadline := some ⟨(Channel.now c.channel).1 + d.nanos, d⟩ }

omit [Watched σ] in
theorem timed_apply (limit : Option Duration) (action : Action σ α) (c : Connection σ) :
    timed limit action c =
      ((action (c.started limit)).1, { (action (c.started limit)).2 with deadline := none }) := by
  cases limit <;> rfl

omit [Watched σ] in
theorem timed_ensures {limit : Option Duration} (hP : ∀ c, P c → P' (c.started limit))
    (h : Ensures P' action (fun a c => Q a { c with deadline := none })
      (fun e c => E e { c with deadline := none })) :
    Ensures P (timed limit action) Q E := by
  constructor
  intro c hc
  have ha := h.run (c.started limit) (hP c hc)
  rw [timed_apply]
  generalize action (c.started limit) = r at ha ⊢
  obtain ⟨e | a, c'⟩ := r
  · exact ha
  · exact ha

theorem close_closed (c : Connection σ) : c.close.status = .closed := by
  unfold close
  split
  · assumption
  · rfl

theorem rollback_idle (c : Connection σ) : (rollback c).2.transaction = .idle := rfl

omit [Channel σ] [Watched σ] in
theorem leaving_ensures {state : TransactionState}
    (h : Ensures P action (fun a c => Q a { c with transaction := state })
      (fun e c => E e { c with transaction := state })) :
    Ensures P (leaving state action) Q E := by
  constructor
  intro c hc
  have ha := h.run c hc
  unfold leaving
  generalize action c = r at ha ⊢
  obtain ⟨e | a, c'⟩ := r
  · exact ha
  · exact ha

omit [Channel σ] [Watched σ] in
theorem failingTo_ensures {state : TransactionState}
    (h : Ensures P action Q (fun e c => E e { c with transaction := state })) :
    Ensures P (failingTo state action) Q E := by
  constructor
  intro c hc
  have ha := h.run c hc
  unfold failingTo
  generalize action c = r at ha ⊢
  obtain ⟨e | a, c'⟩ := r
  · exact ha
  · exact ha

end

end Connection

/-- A cursor that holds one of some results, if it holds any, on a connection with a property. -/
structure Cursor.On (pulled : Nat → Prop) (P : Connection σ → Prop) (s : Cursor × Connection σ) :
    Prop where
  holds : ∀ id, s.1.state = .pending id → pulled id
  connection : P s.2

namespace Cursor

variable {pulled : Nat → Prop} {P : Connection σ → Prop}

theorem fetch_keeps
    (hP : ∀ id, pulled id → Ensures P (Connection.nextRow id) (fun _ => P) (fun _ => P)) :
    Ensures (On pulled P) fetch (fun _ => On pulled P) (fun _ => On pulled P) := by
  constructor
  intro s hs
  obtain ⟨k, c⟩ := s
  obtain ⟨hk, hc⟩ := hs
  have exhausted {k : Cursor} {c : Connection σ} (hs : k.state = .exhausted) (hc : P c) :
      On pulled P (k, c) := by
    refine ⟨fun id h => ?_, hc⟩
    rw [hs] at h
    cases h
  unfold fetch
  dsimp only
  cases hs : k.state with
  | closed | idle => exact ⟨hk, hc⟩
  | exhausted =>
      dsimp only
      split
      · exact ⟨hk, hc⟩
      · exact ⟨hk, hc⟩
  | pending id =>
      have hn := (hP id (hk id hs)).run c hc
      dsimp only
      rcases hr : Connection.nextRow id c with ⟨e | _ | tag, c'⟩
      · rw [hr] at hn
        exact exhausted rfl hn
      · rw [hr] at hn
        exact ⟨fun id' h => hk id' (hs.trans h), hn⟩
      · rw [hr] at hn
        exact exhausted rfl hn

theorem fetchOnto_keeps {P : Cursor × Connection σ → Prop}
    (hP : Ensures P fetch (fun _ => P) (fun _ => P)) (read : List Row) (n : Nat) :
    Ensures P (fetchOnto read n) (fun _ => P) (fun _ => P) := by
  induction n generalizing read with
  | zero => exact Ensures.pure fun _ h => h
  | succ n ih =>
      refine hP.bind fun row => ?_
      cases row with
      | some row => exact ih (row :: read)
      | none => exact Ensures.pure fun _ h => h

theorem fetchAll_keeps {P : Cursor × Connection σ → Prop}
    (hP : Ensures P fetch (fun _ => P) (fun _ => P)) :
    Ensures P fetchAll (fun _ => P) (fun _ => P) :=
  Ensures.get_bind fun _ hs => Ensures.of_eq hs (fetchOnto_keeps hP [] _)

theorem visitOnto_keeps {P : Cursor × Connection σ → Prop}
    (hP : Ensures P fetch (fun _ => P) (fun _ => P)) (visited : List Visit) (n : Nat)
    (s : Cursor × Connection σ) (hs : P s) : P (visitOnto visited n s).2 := by
  induction n generalizing visited s with
  | zero => exact hs
  | succ n ih =>
      have hf := hP.run s hs
      unfold visitOnto
      rcases hr : fetch s with ⟨e | _ | row, s'⟩
      · rw [hr] at hf
        exact hf
      · rw [hr] at hf
        exact hf
      · rw [hr] at hf
        exact ih _ s' hf

omit [Channel σ] [Watched σ] in
theorem open_same : Ensures P (open? : Action σ Cursor) (fun _ => P) (fun _ => P) := by
  refine Ensures.bind (Q := fun _ => P) (Ensures.get_bind fun c hc => ?_)
    fun _ => Ensures.pure fun _ h => h
  split
  · exact Ensures.of_eq hc (Ensures.throw fun _ h => h)
  · exact Ensures.of_eq hc (Ensures.pure fun _ h => h)

theorem execute_keeps {sql : String} {params : List Value}
    (hP : Ensures P (Connection.execute sql params) (fun _ => P) (fun _ => P)) :
    Ensures (P ·.2) (execute sql params) (fun _ s => P s.2) (fun _ s => P s.2) := by
  constructor
  intro s hc
  obtain ⟨k, c⟩ := s
  have he := hP.run c hc
  unfold execute
  dsimp only
  split
  · exact hc
  · generalize Connection.execute sql params c = r at he ⊢
    obtain ⟨e | _, c'⟩ := r
    · exact he
    · exact he

end Cursor

/-- The cursor that an operation works on. -/
def Operation.cursor? : Operation → Option String
  | .openCursorIn _ cursor | .openCursor cursor | .executeOn cursor .. | .fetch cursor
  | .fetchMany cursor _ | .fetchAll cursor | .visit cursor _ | .inspect cursor
  | .closeCursor cursor | .dropCursor cursor => some cursor
  | _ => none

namespace Desk

def Pulls (pulled : Nat → Prop) (operation : Operation) (d : Desk σ) : Prop :=
  ∀ name k id, operation.cursor? = some name → d.cursor? name = some k → k.state = .pending id →
    pulled id

variable {allowed : Option Duration → Prop} {pulled : Nat → Prop} {P : Connection σ → Prop}

omit [Channel σ] [Watched σ] in
theorem run_connection (d : Desk σ) (action : Action σ α) (outcome : α → Outcome) :
    (d.run action outcome).2.connection = (action d.connection).2 := by
  unfold run
  rcases action d.connection with ⟨e | a, c⟩
  · rfl
  · rfl

omit [Channel σ] [Watched σ] in
theorem run_keeps {action : Action σ α} (h : Ensures P action (fun _ => P) (fun _ => P))
    (d : Desk σ) (outcome : α → Outcome) (hd : P d.connection) :
    P (d.run action outcome).2.connection := by
  rw [run_connection]
  exact h.state hd

omit [Channel σ] [Watched σ] in
theorem runCursor_ensures {action : CursorAction σ α} {I J : Cursor × Connection σ → Prop}
    (h : Ensures I action (fun _ => J) (fun _ => J)) (d : Desk σ) (name : String)
    (outcome : α → Outcome) {k : Cursor} (hk : d.cursor? name = some k)
    (hd : I (k, d.connection)) :
    ∃ k' c', J (k', c') ∧
      (d.runCursor name action outcome).2 = { d with connection := c' }.putCursor name k' := by
  have ha := h.run (k, d.connection) hd
  unfold runCursor
  rw [hk]
  dsimp only
  rcases hr : action (k, d.connection) with ⟨e | a, k', c⟩
  · rw [hr] at ha
    exact ⟨k', c, ha, rfl⟩
  · rw [hr] at ha
    exact ⟨k', c, ha, rfl⟩

omit [Channel σ] [Watched σ] in
theorem runCursor_keeps {action : CursorAction σ α} {I J : Cursor × Connection σ → Prop}
    (h : Ensures I action (fun _ => J) (fun _ => J)) (hJ : ∀ s, J s → P s.2) (d : Desk σ)
    (name : String) (outcome : α → Outcome) (hd : P d.connection)
    (hI : ∀ k, d.cursor? name = some k → I (k, d.connection)) :
    P (d.runCursor name action outcome).2.connection := by
  cases hk : d.cursor? name with
  | none =>
      unfold runCursor
      rw [hk]
      exact hd
  | some k =>
      obtain ⟨k', c', hJ', he⟩ := runCursor_ensures h d name outcome hk (hI k hk)
      rw [he]
      exact hJ (k', c') hJ'

omit [Channel σ] [Watched σ] in
theorem openCursor_keeps (d : Desk σ) (name : String) (hd : P d.connection) :
    P (d.openCursor name).2.connection := by
  have ho := (Cursor.open_same (P := P)).run d.connection hd
  unfold openCursor
  generalize Cursor.open? d.connection = r at ho ⊢
  obtain ⟨e | k, c⟩ := r
  · exact ho
  · exact ho

theorem abandonScope_keeps (h : Ensures P Connection.rollback (fun _ => P) (fun _ => P))
    (d : Desk σ) (hd : P d.connection) : P d.abandonScope.connection :=
  h.state hd

theorem beginScope_keeps {level : Isolation} (d : Desk σ) (name : String)
    (h : Ensures P (Connection.begin level.sql) (fun _ => P) (fun _ => P))
    (hr : d.scopes.contains name = true → Ensures P Connection.rollback (fun _ => P) (fun _ => P))
    (hd : P d.connection) : P (d.beginScope name level).2.connection := by
  have hb := h.run d.connection hd
  unfold beginScope
  generalize Connection.begin level.sql d.connection = r at hb ⊢
  obtain ⟨e | _, c⟩ := r
  · exact hb
  · dsimp only
    split
    · next hs => exact abandonScope_keeps (hr hs) { d with connection := c } hb
    · exact hb

omit [Channel σ] [Watched σ] in
theorem endScope_keeps {action : Action σ Unit}
    (h : Ensures P action (fun _ => P) (fun _ => P)) (d : Desk σ) (name : String)
    (hd : P d.connection) : P (d.endScope name action).2.connection := by
  unfold endScope
  split
  · exact run_keeps h { d with scopes := d.scopes.filter (· != name) } _ hd
  · exact hd

def Calls (d : Desk σ) (call : Connection.Call) : Operation → Prop
  | .execute sql params | .executeIn _ sql params | .executeOn _ sql params =>
    call = .execute sql params
  | .commit | .commitScope _ => call = .commit
  | .rollback | .rollbackScope _ | .dropScope _ => call = .rollback
  | .ping => call = .ping
  | .close => call = .close
  | .setAutocommit on => call = .setAutocommit on
  | .setStatementTimeout limit => call = .setStatementTimeout limit
  | .beginScope scope level =>
    call = .begin level ∨ d.scopes.contains scope = true ∧ call = .rollback
  | .fetch cursor | .fetchMany cursor _ | .fetchAll cursor | .visit cursor _ =>
    ∃ k id, d.cursor? cursor = some k ∧ k.state = .pending id ∧ call = .nextRow id
  | _ => False

omit [Channel σ] [Watched σ] in
theorem Calls.limit {d : Desk σ} {operation : Operation} {limit : Option Duration}
    (h : d.Calls (.setStatementTimeout limit) operation) :
    operation = .setStatementTimeout limit := by
  cases operation <;> simp_all [Calls]

omit [Channel σ] [Watched σ] in
theorem Calls.pulls {d : Desk σ} {operation : Operation} {id : Nat}
    (h : d.Calls (.nextRow id) operation) :
    ∃ name k, operation.cursor? = some name ∧ d.cursor? name = some k ∧ k.state = .pending id := by
  cases operation with
  | fetch cursor | fetchMany cursor | fetchAll cursor | visit cursor =>
      obtain ⟨k, id, hk, hs, he⟩ := h
      cases he
      exact ⟨cursor, k, rfl, hk, hs⟩
  | _ => simp [Calls] at h

/-- What the calls of an operation keep, the operation keeps. -/
theorem perform_called (d : Desk σ) (operation : Operation)
    (h : ∀ call, d.Calls call operation → ∀ c, P c → P (c.called call)) (hd : P d.connection) :
    P (d.perform operation).2.connection := by
  let held (cursor : String) (id : Nat) : Prop :=
    ∃ k, d.cursor? cursor = some k ∧ k.state = .pending id
  have on (cursor : String) (k : Cursor) (hk : d.cursor? cursor = some k) :
      Cursor.On (held cursor) P (k, d.connection) :=
    ⟨fun _ hs => ⟨k, hk, hs⟩, hd⟩
  have fetches {cursor : String} (hf : ∀ k id, d.cursor? cursor = some k → k.state = .pending id →
      d.Calls (.nextRow id) operation) : Ensures (Cursor.On (held cursor) P) Cursor.fetch
        (fun _ => Cursor.On (held cursor) P) (fun _ => Cursor.On (held cursor) P) :=
    Cursor.fetch_keeps fun id hid => Ensures.of_state
      (h (.nextRow id) (hid.elim fun k hk => hf k id hk.1 hk.2))
  cases operation with
  | autocommit | statementTimeout | parameter | backendKey | inspect | dropCursor =>
      rw [perform]
      exact hd
  | execute sql params =>
      rw [perform]
      exact run_keeps (Ensures.of_state (h (.execute sql params) rfl)) d _ hd
  | executeIn scope sql params =>
      rw [perform]
      split
      · exact run_keeps (Ensures.of_state (h (.execute sql params) rfl)) d _ hd
      · exact hd
  | executeOn cursor sql params =>
      rw [perform]
      exact runCursor_keeps (Cursor.execute_keeps (Ensures.of_state (h (.execute sql params) rfl)))
        (fun _ h => h) d cursor _ hd fun _ _ => hd
  | commit =>
      rw [perform]
      exact run_keeps (Ensures.of_state (h .commit rfl)) d _ hd
  | commitScope scope =>
      rw [perform]
      exact endScope_keeps (Ensures.of_state (h .commit rfl)) d scope hd
  | rollback =>
      rw [perform]
      exact run_keeps (Ensures.of_state (h .rollback rfl)) d _ hd
  | rollbackScope scope =>
      rw [perform]
      exact endScope_keeps (Ensures.of_state (h .rollback rfl)) d scope hd
  | dropScope scope =>
      rw [perform]
      split
      · exact abandonScope_keeps (Ensures.of_state (h .rollback rfl))
          { d with scopes := d.scopes.filter (· != scope) } hd
      · exact hd
  | ping =>
      rw [perform]
      exact run_keeps (Ensures.of_state (h .ping rfl)) d _ hd
  | close =>
      rw [perform]
      exact h .close rfl _ hd
  | setAutocommit on =>
      rw [perform]
      exact run_keeps (Ensures.of_state (h (.setAutocommit on) rfl)) d _ hd
  | setStatementTimeout limit =>
      rw [perform]
      exact h (.setStatementTimeout limit) rfl _ hd
  | beginScope scope level =>
      rw [perform]
      exact beginScope_keeps d scope (Ensures.of_state (h (.begin level) (.inl rfl)))
        (fun hs => Ensures.of_state (h .rollback (.inr ⟨hs, rfl⟩))) hd
  | openCursorIn scope cursor =>
      rw [perform]
      split
      · exact openCursor_keeps d cursor hd
      · exact hd
  | openCursor cursor =>
      rw [perform]
      exact openCursor_keeps d cursor hd
  | closeCursor cursor =>
      rw [perform]
      split
      · exact hd
      · exact hd
  | fetch cursor =>
      rw [perform]
      exact runCursor_keeps (fetches fun k id hk hs => ⟨k, id, hk, hs, rfl⟩)
        (fun _ h => h.connection) d cursor _ hd (on cursor)
  | fetchMany cursor n =>
      rw [perform]
      exact runCursor_keeps
        (Cursor.fetchOnto_keeps (fetches fun k id hk hs => ⟨k, id, hk, hs, rfl⟩) [] n)
        (fun _ h => h.connection) d cursor _ hd (on cursor)
  | fetchAll cursor =>
      rw [perform]
      exact runCursor_keeps
        (Cursor.fetchAll_keeps (fetches fun k id hk hs => ⟨k, id, hk, hs, rfl⟩))
        (fun _ h => h.connection) d cursor _ hd (on cursor)
  | visit cursor n =>
      rw [perform]
      refine runCursor_keeps (J := Cursor.On (held cursor) P) ⟨fun s hs => ?_⟩
        (fun _ h => h.connection) d cursor _ hd (on cursor)
      exact Cursor.visitOnto_keeps (fetches fun k id hk hs => ⟨k, id, hk, hs, rfl⟩) [] n s hs

/-- What every call keeps is kept by any operations, one after the other. -/
theorem performAll_called (h : ∀ call c, P c → P (c.called call)) (operations : List Operation)
    (d : Desk σ) (hd : P d.connection) : P (d.performAll operations).2.connection := by
  induction operations generalizing d with
  | nil => exact hd
  | cons operation operations ih =>
      exact ih (d.perform operation).2 (perform_called d operation (fun call _ => h call) hd)

/-- An operation comes to some of its calls, one after the other. -/
theorem perform_calls (d : Desk σ) (operation : Operation) :
    ∃ calls, (∀ call ∈ calls, d.Calls call operation) ∧
      (d.perform operation).2.connection = d.connection.calledAll calls := by
  refine perform_called (P := fun c => ∃ calls, (∀ call ∈ calls, d.Calls call operation) ∧
    c = d.connection.calledAll calls) d operation ?_ ⟨[], by simp, rfl⟩
  rintro call hcall c ⟨calls, hcalls, rfl⟩
  exact ⟨calls ++ [call], List.forall_mem_append.2 ⟨hcalls, by simpa using hcall⟩,
    (Connection.calledAll_snoc _ _ _).symm⟩

/-- Whatever every operation of a connection keeps is kept by everything a caller can do. -/
theorem perform_keeps (h : Connection.Invariant allowed pulled P) (d : Desk σ)
    (operation : Operation)
    (ha : ∀ limit, operation = .setStatementTimeout limit → allowed limit)
    (hp : d.Pulls pulled operation) (hd : P d.connection) :
    P (d.perform operation).2.connection := by
  refine perform_called d operation (fun call hc c => h.called ?_ ?_) hd
  · intro limit hl
    subst hl
    exact ha limit hc.limit
  · intro id hi
    subst hi
    obtain ⟨name, k, hn, hk, hs⟩ := hc.pulls
    exact hp name k id hn hk hs

theorem performAll_keeps (h : Connection.Invariant allowed pulled P) (hp : ∀ id, pulled id)
    (operations : List Operation) (d : Desk σ)
    (ha : ∀ limit, .setStatementTimeout limit ∈ operations → allowed limit)
    (hd : P d.connection) : P (d.performAll operations).2.connection := by
  induction operations generalizing d with
  | nil => exact hd
  | cons operation operations ih =>
      refine ih (d.perform operation).2 (fun limit hl => ha limit (by simp [hl])) ?_
      exact perform_keeps h d operation (fun limit hl => ha limit (by simp [hl]))
        (fun _ _ id _ _ _ => hp id) hd

/-- What a rollback and the end of the connection keep is kept when the caller leaves scopes and
connection behind. -/
theorem leave_called (d : Desk σ) (rollback : ∀ c, P c → P (c.called .rollback))
    (close : ∀ c, P c → P (c.called .close)) (hd : P d.connection) : P d.leave := by
  unfold leave
  refine close _ ?_
  generalize d.scopes = scopes
  induction scopes generalizing d with
  | nil => exact hd
  | cons _ scopes ih =>
      exact ih d.abandonScope (abandonScope_keeps (Ensures.of_state rollback) d hd)

/-- What the caller leaves behind comes to rollbacks and the end of the connection. -/
theorem leave_calls (d : Desk σ) :
    ∃ calls, (∀ call ∈ calls, call = .rollback ∨ call = .close) ∧
      d.leave = d.connection.calledAll calls := by
  have onward (call : Connection.Call) (h : call = .rollback ∨ call = .close)
      (c : Connection σ) (hc : ∃ calls, (∀ call ∈ calls, call = .rollback ∨ call = .close) ∧
        c = d.connection.calledAll calls) :
      ∃ calls, (∀ call ∈ calls, call = .rollback ∨ call = .close) ∧
        c.called call = d.connection.calledAll calls := by
    obtain ⟨calls, hcalls, rfl⟩ := hc
    exact ⟨calls ++ [call], List.forall_mem_append.2 ⟨hcalls, by simpa using h⟩,
      (Connection.calledAll_snoc _ _ _).symm⟩
  exact leave_called d (onward .rollback (.inl rfl)) (onward .close (.inr rfl))
    ⟨[], by simp, rfl⟩

theorem leave_keeps (h : Connection.Invariant allowed pulled P) (d : Desk σ)
    (hd : P d.connection) : P d.leave :=
  leave_called d (fun _ => h.rollback.state) h.close hd

end Desk

end SqlWire
