import SqlWire.Client.Desk
import SqlWire.Proofs.Client.Recorder

/-!
# Connections that are of no more use

A connection that broke or was closed never sends or reads anything again and turns down
everything that is asked of it. When it is gone, or was never made, its channel has been closed
exactly once, and nothing was done with it after that.
-/

namespace SqlWire

namespace Entry

def status? : Entry → Option ConnectionStatus
  | shown (.status status) => some status
  | _ => none

/-- Whether the entry is one of a connection that goes on: it neither shows it broken or closed,
nor is it the end of its channel. -/
def goesOn : Entry → Bool
  | closed | shown (.status .broken) | shown (.status .closed) => false
  | _ => true

end Entry

structure Unbroken (status : ConnectionStatus) (record : List Entry) : Prop where
  all : ∀ entry ∈ record, entry.goesOn = true
  last : Recorder.latest Entry.status? record .ready = status

/-- The record of a connection with this status, in which its loss and its end come last: whatever
is sent and read, and whatever it becomes ready or open for, is in front of them. -/
inductive LossLast : ConnectionStatus → List Entry → Prop
  | usable {status : ConnectionStatus} {record : List Entry} (h : Unbroken status record) :
      LossLast status record
  | broken {status : ConnectionStatus} {record : List Entry} (h : Unbroken status record) :
      LossLast .broken (record ++ [.shown (.status .broken)])
  | closed {status : ConnectionStatus} {record : List Entry} (h : Unbroken status record) :
      LossLast .closed (record ++ [.closed, .shown (.status .closed)])
  /-- It broke first. -/
  | discarded {status : ConnectionStatus} {record : List Entry} (h : Unbroken status record) :
      LossLast .closed (record ++ [.shown (.status .broken), .closed, .shown (.status .closed)])

/-- The channel was closed once, and nothing was done with it after that. -/
def TornDown (record : List Entry) : Prop :=
  ∃ before, record = before ++ [.closed, .shown (.status .closed)] ∧ .closed ∉ before

section

variable {status : ConnectionStatus} {record : List Entry}

theorem Unbroken.snoc (h : Unbroken status record) (entry : Entry) (he : entry.goesOn = true) :
    Unbroken (entry.status?.getD status) (record ++ [entry]) := by
  refine ⟨List.forall_mem_append.2 ⟨h.all, by simpa using he⟩, ?_⟩
  rw [Recorder.latest_snoc, h.last]

theorem Unbroken.closed_notMem (h : Unbroken status record) : .closed ∉ record :=
  fun hm => nomatch h.all .closed hm

theorem Unbroken.not_closed (h : Unbroken status record) : status ≠ .closed := by
  rintro rfl
  rcases Recorder.latest_mem h.last with hs | ⟨entry, hm, hs⟩
  · cases hs
  · have goesOn := h.all entry hm
    match entry, hs, goesOn with
    | .shown (.status .closed), rfl, goesOn => cases goesOn

theorem LossLast.unbroken (h : LossLast status record) (hb : status ≠ .broken)
    (hc : status ≠ .closed) : Unbroken status record := by
  cases h with
  | usable h => exact h
  | broken => exact absurd rfl hb
  | closed | discarded => exact absurd rfl hc

/-- A connection that goes on comes to any status but that of a closed one. -/
theorem Unbroken.became (h : Unbroken status record) {next : ConnectionStatus}
    (hn : next ≠ .closed) : LossLast next (record ++ [.shown (.status next)]) := by
  cases next with
  | ready => exact .usable (h.snoc (.shown (.status .ready)) rfl)
  | streaming id columns => exact .usable (h.snoc (.shown (.status (.streaming id columns))) rfl)
  | broken => exact .broken h
  | closed => exact absurd rfl hn

theorem LossLast.shut (h : LossLast status record) (hs : status ≠ .closed) :
    LossLast .closed (record ++ [.closed, .shown (.status .closed)]) := by
  cases h with
  | usable h => exact .closed h
  | broken h =>
      rw [List.append_assoc]
      exact .discarded h
  | closed | discarded => exact absurd rfl hs

theorem LossLast.tornDown (h : LossLast .closed record) : TornDown record := by
  cases h with
  | usable h => exact absurd rfl h.not_closed
  | closed h => exact ⟨_, rfl, h.closed_notMem⟩
  | @discarded _ before h =>
      refine ⟨before ++ [.shown (.status .broken)], by simp, ?_⟩
      simpa using h.closed_notMem

end

namespace Connection

variable {σ : Type} [Channel σ] {c d : Connection (Recorder σ)}

theorem Use.lossLast (h : Use c d) (hc : LossLast c.status c.entries) :
    LossLast d.status d.entries := by
  have unbroken (hu : c.isUsable = true) : Unbroken c.status c.entries :=
    hc.unbroken (not_broken_of_usable hu) (not_closed_of_usable hu)
  cases h with
  | sent bytes hu => exact .usable ((unbroken hu).snoc (.sent bytes) rfl)
  | bounded limit hu => exact .usable ((unbroken hu).snoc (.bounded limit) rfl)
  | received hu =>
      exact .usable (((unbroken hu).snoc (.received _) rfl).snoc (.shown (.holds _)) rfl)
  | missed hu => exact .usable ((unbroken hu).snoc (.received _) rfl)
  | clock => exact hc
  | within hl hs =>
      have same : d.entries = c.entries := congrArg Recorder.record hl
      rw [hs, same]
      exact hc
  | became status hu hs => exact (unbroken hu).became hs
  | shut hs =>
      have record : c.shut.entries = c.entries ++ [.closed, .shown (.status .closed)] :=
        List.append_assoc _ _ _
      rw [record]
      exact hc.shut hs

/-- Whatever becomes of a connection, its record stays in order. -/
theorem Uses.lossLast (h : Uses c d) (hc : LossLast c.status c.entries) :
    LossLast d.status d.entries := by
  induction h with
  | refl => exact hc
  | tail _ hu ih => exact hu.lossLast ih

end Connection

namespace Desk

variable {σ : Type}

def refusal? (d : Desk σ) : Operation → Option Outcome
  | .execute .. | .commit | .rollback | .ping | .setAutocommit _ | .beginScope .. | .openCursor _ =>
    some (.failed .connectionClosed)
  | .executeIn scope .. | .openCursorIn scope _ | .commitScope scope | .rollbackScope scope =>
    if d.scopes.contains scope then some (.failed .connectionClosed) else none
  | .executeOn cursor .. =>
    if (d.cursor? cursor).isSome then some (.failed .connectionClosed) else none
  | .fetch cursor | .fetchAll cursor | .fetchMany cursor (_ + 1) =>
    match (d.cursor? cursor).map Cursor.state with
    | some (.pending _) => some (.failed .connectionClosed)
    | _ => none
  | .visit cursor (n + 1) =>
    match (d.cursor? cursor).map Cursor.state with
    | some (.pending _) => some (.visits (.failed .connectionClosed :: List.replicate n .done))
    | _ => none
  | _ => none

end Desk

namespace Connection

variable {σ : Type} [Channel σ] [Watched σ] {c : Connection σ}

theorem rollback_refuses (hu : c.isUsable = false) :
    (rollback c).1 = .error .connectionClosed := by
  unfold rollback leaving
  rw [refuses hu]

theorem nextRow_refuses (hu : c.isUsable = false) (id : Nat) :
    nextRow id c = (.error .connectionClosed, c) := by
  unfold nextRow
  rw [bind_apply, get_apply]
  unfold isUsable at hu
  dsimp only
  cases hs : c.status with
  | ready | streaming => simp [hs] at hu
  | broken | closed => rfl

end Connection

namespace Cursor

variable {σ : Type} [Channel σ] [Watched σ] {k : Cursor} {c : Connection σ} {id : Nat}

theorem fetch_refuses (hu : c.isUsable = false) (hk : k.state = .pending id) :
    fetch (k, c) = (.error .connectionClosed, { k with state := .exhausted }, c) := by
  unfold fetch
  simp only [hk, Connection.nextRow_refuses hu]

theorem fetchOnto_refuses (hu : c.isUsable = false) (hk : k.state = .pending id) (n : Nat) :
    (fetchMany (n + 1) (k, c)).1 = .error .connectionClosed := by
  unfold fetchMany fetchOnto
  rw [bind_apply, fetch_refuses hu hk]

theorem visit_refuses (hu : c.isUsable = false) (hk : k.state = .pending id) (n : Nat) :
    (visit (n + 1) (k, c)).1 = .failed .connectionClosed :: List.replicate n .done := by
  unfold visit visitOnto
  rw [fetch_refuses hu hk]
  rfl

theorem execute_refuses (hu : c.isUsable = false) (sql : String) (params : List Value) :
    (execute sql params (k, c)).1 = .error .connectionClosed := by
  have refused : Connection.execute sql params c = (.error .connectionClosed, c) :=
    Connection.refuses hu
  unfold execute
  dsimp only
  split
  · rfl
  · rw [refused]

end Cursor

namespace Desk

variable {σ α : Type} [Channel σ] [Watched σ] {d : Desk σ}

omit [Channel σ] [Watched σ] in
theorem run_refuses {action : Action σ α} {outcome : α → Outcome}
    (h : (action d.connection).1 = .error .connectionClosed) :
    (d.run action outcome).1 = .failed .connectionClosed := by
  unfold run
  rcases hr : action d.connection with ⟨e | a, c⟩
  · rw [hr] at h
    cases h
    rfl
  · rw [hr] at h
    cases h

omit [Channel σ] [Watched σ] in
/-- What is done in a scope is refused if there is such a scope. -/
theorem scope_refuses {scope : String} {outcome refused : Outcome} {r : Outcome × Desk σ}
    (hr : r.1 = refused)
    (h : (if d.scopes.contains scope then some refused else none) = some outcome) :
    (if d.scopes.contains scope then r else (.absent, d)).1 = outcome := by
  by_cases hs : d.scopes.contains scope
  · rw [if_pos hs] at h ⊢
    exact hr.trans (Option.some.inj h)
  · rw [if_neg hs] at h
    cases h

omit [Channel σ] [Watched σ] in
theorem runCursor_refuses {action : CursorAction σ α} {outcome : α → Outcome} {name : String}
    {k : Cursor} (hk : d.cursor? name = some k)
    (h : (action (k, d.connection)).1 = .error .connectionClosed) :
    (d.runCursor name action outcome).1 = .failed .connectionClosed := by
  unfold runCursor
  rw [hk]
  dsimp only
  rcases hr : action (k, d.connection) with ⟨e | a, k', c⟩
  · rw [hr] at h
    cases h
    rfl
  · rw [hr] at h
    cases h

omit [Channel σ] [Watched σ] in
theorem openCursor_refuses (hu : d.connection.isUsable = false) (cursor : String) :
    (d.openCursor cursor).1 = .failed .connectionClosed := by
  have refused : (Cursor.open? : Action σ Cursor) d.connection =
      (.error .connectionClosed, d.connection) := Connection.refuses hu
  unfold openCursor
  rw [refused]

omit [Channel σ] [Watched σ] in
/-- The result that a cursor waits for, if an operation on it is refused. -/
theorem refusal_pending {cursor : String} {outcome refused : Outcome}
    (h : (match (d.cursor? cursor).map Cursor.state with
      | some (.pending _) => some refused
      | _ => none) = some outcome) :
    ∃ k id, d.cursor? cursor = some k ∧ k.state = .pending id ∧ outcome = refused := by
  split at h
  · next id hk =>
      obtain ⟨k, hk, hs⟩ := Option.map_eq_some_iff.1 hk
      cases h
      exact ⟨k, id, hk, hs, rfl⟩
  · cases h

/-- Everything that needs the connection is refused once it is of no more use. -/
theorem perform_refuses (hu : d.connection.isUsable = false) {operation : Operation}
    {outcome : Outcome} (h : d.refusal? operation = some outcome) :
    (d.perform operation).1 = outcome := by
  have execute (sql : String) (params : List Value) :
      (Connection.execute sql params d.connection).1 = .error .connectionClosed :=
    congrArg Prod.fst (Connection.refuses hu)
  have commit : (Connection.commit d.connection).1 = .error .connectionClosed :=
    congrArg Prod.fst (Connection.refuses hu)
  have rollback := Connection.rollback_refuses hu
  cases operation with
  | execute sql params =>
      cases h
      exact run_refuses (execute sql params)
  | commit =>
      cases h
      exact run_refuses commit
  | rollback =>
      cases h
      exact run_refuses rollback
  | ping =>
      cases h
      exact run_refuses (congrArg Prod.fst (Connection.refuses hu))
  | setAutocommit on =>
      cases h
      exact run_refuses (congrArg Prod.fst (Connection.refuses hu))
  | beginScope scope level =>
      have begin : Connection.begin level.sql d.connection =
          (.error .connectionClosed, d.connection) := Connection.refuses hu
      cases h
      rw [perform]
      unfold beginScope
      rw [begin]
  | openCursor cursor =>
      cases h
      exact openCursor_refuses hu cursor
  | executeIn scope sql params => exact scope_refuses (run_refuses (execute sql params)) h
  | openCursorIn scope cursor => exact scope_refuses (openCursor_refuses hu cursor) h
  | commitScope scope => exact scope_refuses (run_refuses commit) h
  | rollbackScope scope => exact scope_refuses (run_refuses rollback) h
  | executeOn cursor sql params =>
      unfold refusal? at h
      cases hk : d.cursor? cursor with
      | none => simp [hk] at h
      | some k =>
          simp only [hk] at h
          cases h
          exact runCursor_refuses hk (Cursor.execute_refuses hu sql params)
  | fetch cursor =>
      obtain ⟨k, id, hk, hs, rfl⟩ := refusal_pending h
      exact runCursor_refuses hk (congrArg Prod.fst (Cursor.fetch_refuses hu hs))
  | fetchAll cursor =>
      obtain ⟨k, id, hk, hs, rfl⟩ := refusal_pending h
      exact runCursor_refuses hk (Cursor.fetchOnto_refuses hu hs _)
  | fetchMany cursor n =>
      cases n with
      | zero => cases h
      | succ n =>
          obtain ⟨k, id, hk, hs, rfl⟩ := refusal_pending h
          exact runCursor_refuses hk (Cursor.fetchOnto_refuses hu hs n)
  | visit cursor n =>
      cases n with
      | zero => cases h
      | succ n =>
          obtain ⟨k, id, hk, hs, rfl⟩ := refusal_pending h
          rw [perform]
          unfold runCursor
          rw [hk]
          exact congrArg Outcome.visits (Cursor.visit_refuses hu hs n)
  | _ => cases h

end Desk

namespace Connection

variable {σ : Type} [Channel σ]

/-- What is left of a connection that was not made is closed. -/
theorem connect_closes [Watched σ] {options : ConnectOptions} {channel : σ} {error : ClientError}
    (h : (connect options channel).1 = .error error) :
    (connect options channel).2.status = .closed := by
  have ends : Ends (fun _ _ => True) (fun _ c => c.status = .closed) (connect options channel) :=
    connect_ensures (I := fun _ => True) trivial ((Ensures.trivial _).mono (fun _ h => h)
      (fun _ _ h => h) fun _ _ _ => close_closed _)
  exact ends.error h

/-- In the record of a connection, from the first greeting to the end and in the middle of its
operations, its loss comes last: once it is shown broken or closed, nothing more is sent or read,
and it never becomes ready or open again. Whatever needs a connection that is of no more use is
refused. When connecting has failed, or the connection is gone with everything on it, the channel
was closed exactly once, and nothing was done with it after that. -/
theorem breakage_is_final (options : ConnectOptions) (channel : σ)
    (operations later : List Operation) :
    let made := connect options (Recorder.untouched channel)
    let d := (Desk.performAll { connection := made.2 } operations).2
    let e := (d.performAll later).2
    (LossLast made.2.status made.2.entries ∧ LossLast d.connection.status d.connection.entries ∧
        LossLast e.connection.status e.connection.entries ∧
        LossLast d.leave.status d.leave.entries) ∧
      (made.2.entries <+: d.connection.entries ∧ d.connection.entries <+: e.connection.entries ∧
        d.connection.entries <+: d.leave.entries) ∧
      (∀ error, made.1 = .error error → TornDown made.2.entries) ∧
      TornDown d.leave.entries ∧
      (d.connection.isUsable = false → e.connection.isUsable = false ∧
        ∀ operation outcome, e.refusal? operation = some outcome →
          (e.perform operation).1 = outcome) := by
  intro made d e
  have runs (f : Desk (Recorder σ)) (os : List Operation) :
      Uses f.connection (f.performAll os).2.connection :=
    Desk.performAll_keeps (invariant_uses f.connection) (fun _ => trivial) os f
      (fun _ _ => trivial) .refl
  have making : Uses (fresh options (Recorder.untouched channel)) made.2 := connect_uses options _
  have before : Uses made.2 d.connection := runs { connection := made.2 } operations
  have after : Uses d.connection e.connection := runs d later
  have leaving : Uses d.connection d.leave :=
    Desk.leave_keeps (invariant_uses d.connection) d .refl
  -- every use of the channel keeps the record in order, from the first greeting on
  have start : LossLast .ready [] := .usable ⟨nofun, rfl⟩
  have lost : LossLast made.2.status made.2.entries := making.lossLast start
  have lost' : LossLast d.connection.status d.connection.entries := before.lossLast lost
  have lost'' : LossLast d.leave.status d.leave.entries := leaving.lossLast lost'
  refine ⟨⟨lost, lost', after.lossLast lost', lost''⟩,
    ⟨before.entries_prefix, after.entries_prefix, leaving.entries_prefix⟩,
    fun error he => ?_, ?_, fun hu => ?_⟩
  · rw [connect_closes he] at lost
    exact lost.tornDown
  · rw [Desk.leave, close_closed] at lost''
    exact lost''.tornDown
  · have unusable : e.connection.isUsable = false := after.unusable hu
    exact ⟨unusable, fun operation outcome h => Desk.perform_refuses unusable h⟩

end Connection

end SqlWire
