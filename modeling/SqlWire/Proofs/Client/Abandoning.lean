import SqlWire.Proofs.Client.Pending
import SqlWire.Proofs.Client.Progress
import SqlWire.Proofs.Client.Rows
import SqlWire.Proofs.Wire.Survival

/-!
# Abandoned results

Nobody has to read a result to its end. A request that finds rows on their way drains them first,
and from there on all is as if they had been read: after any number of fetches, what a commit, a
rollback, a ping or the beginning of a transaction gives, sends and leaves behind is the same as
after all of them.
-/

namespace SqlWire

namespace Connection

variable {σ : Type} {α : Type} {c d e : Connection σ}

theorem admits {f : Unit → Action σ α} (hu : c.isUsable = true) :
    ((ensureUsable : Action σ Unit) >>= f) c = f () c := by
  rw [bind_apply, ensureUsable_apply, hu]
  rfl

variable [Channel σ]

/-- Without a time limit an action starts from where the connection is. -/
theorem started_eq (hd : c.deadline = none) : c.started none = c := by
  cases c
  cases hd
  rfl

/-- The connection is ready, and no time limit is set. -/
structure AtEase (c : Connection σ) : Prop where
  ready : c.status = .ready
  deadline : c.deadline = none
  unlimited : c.statementTimeout = none

omit [Channel σ] in
theorem AtEase.not_streaming (h : c.AtEase) : c.isStreaming = false := by
  simp [isStreaming, h.ready]

/-- Without a time limit an action is all there is to an action under the time limit. -/
theorem unlimited_apply (hl : c.statementTimeout = none) (action : Action σ α) :
    timedStatement action c =
      ((action (c.started none)).1, (action (c.started none)).2.started none) := by
  have ht : timedStatement action c = timed c.statementTimeout action c := rfl
  rw [ht, hl, timed_apply]
  rfl

theorem AtEase.settles (h : c.AtEase) : settle c = (.ok (), c) := by
  unfold settle
  rw [bind_apply, get_apply]
  simp only [h.not_streaming]
  rfl

/-- The rest of a result is on its way to the connection, and draining it comes to `e`. -/
structure Leftover (id : Nat) (columns : List Column) (e c : Connection σ) : Prop where
  streaming : c.status = .streaming id columns
  unlimited : c.statementTimeout = none
  rest : ∃ ms, Remainder columns.length ms ∧ Awaiting ms c
  drains : converse settleTurn throw none (c.started none) = (.ok (), e)
  rested : Rested c e

variable {id : Nat} {columns : List Column}

theorem leftover_of_awaiting {ms : List BackendMessage} (hs : c.status = .streaming id columns)
    (hl : c.statementTimeout = none) (h : Remainder columns.length ms) (ha : Awaiting ms c) :
    ∃ e, Leftover id columns e c := by
  obtain ⟨e, hrest, hdrains, -⟩ := remainder_read (c := c.started none) h ha rfl
  exact ⟨e, hs, hl, ⟨ms, h, ha⟩, hdrains, hrest.ready, hrest.deadline, hrest.statementTimeout⟩

namespace Leftover

section

variable (h : Leftover id columns e c)
include h

theorem atEase : e.AtEase :=
  ⟨h.rested.ready, h.rested.deadline, h.rested.statementTimeout.trans h.unlimited⟩

theorem usable : c.isUsable = true := by
  simp [isUsable, h.streaming]

theorem streams : (c.started none).isStreaming = true := by
  have hs : (c.started none).status = .streaming id columns := h.streaming
  simp [isStreaming, hs]

theorem settles : settle (c.started none) = (.ok (), e) := by
  unfold settle
  rw [bind_apply, get_apply]
  simp only [h.streams, if_true]
  exact h.drains

theorem drained : timedStatement settle c = (.ok (), e) := by
  rw [unlimited_apply h.unlimited, h.settles]
  exact congrArg _ (started_eq h.rested.deadline)

/-! ## Requests -/

/-- An exchange that drains first does the same on a connection that has read everything. -/
theorem exchange_eq (f : Unit → Action σ α) :
    timedStatement (settle >>= f) c = timedStatement (settle >>= f) e := by
  rw [unlimited_apply h.unlimited, unlimited_apply h.atEase.unlimited,
    started_eq h.rested.deadline, bind_apply, bind_apply, h.settles, h.atEase.settles]

theorem ping_eq : ping c = ping e := by
  unfold ping
  rw [admits h.usable, admits (isUsable_of_ready h.rested.ready)]
  exact h.exchange_eq _

theorem begin_eq (sql : String) : begin sql c = begin sql e := by
  unfold begin
  rw [admits h.usable, admits (isUsable_of_ready h.rested.ready)]
  exact h.exchange_eq _

/-- What ends a transaction drains first, unless there is neither a result nor a transaction. -/
theorem ending_eq {f : Unit → Action σ Unit}
    (hidle : e.transaction = .idle → f () e = (.ok (), e)) :
    (ensureUsable >>= fun _ => get >>= fun c =>
      if c.transaction = .idle ∧ (!c.isStreaming) = true then pure ()
      else timedStatement (settle >>= f) : Action σ Unit) c =
    (ensureUsable >>= fun _ => get >>= fun c =>
      if c.transaction = .idle ∧ (!c.isStreaming) = true then pure ()
      else timedStatement (settle >>= f) : Action σ Unit) e := by
  have hs : c.isStreaming = true := by
    simp [isStreaming, h.streaming]
  rw [admits h.usable, admits (isUsable_of_ready h.rested.ready), bind_apply, get_apply,
    bind_apply, get_apply]
  simp only [hs, h.atEase.not_streaming, Bool.not_true, Bool.false_eq_true, and_false, if_false,
    Bool.not_false, and_true]
  rw [h.exchange_eq]
  by_cases ht : e.transaction = .idle
  · rw [if_pos ht, unlimited_apply h.atEase.unlimited, started_eq h.rested.deadline, bind_apply,
      h.atEase.settles]
    dsimp only
    rw [hidle ht, started_eq h.rested.deadline]
    rfl
  · rw [if_neg ht]

theorem commit_eq : commit c = commit e := by
  refine h.ending_eq (f := fun _ => commitSettled) fun hidle => ?_
  unfold commitSettled
  rw [bind_apply, get_apply]
  simp only [hidle]
  rfl

theorem rollback_eq : rollback c = rollback e := by
  have inner := h.ending_eq (f := fun _ => do
    if (← get).transaction ≠ .idle then
      let _ ← command "ROLLBACK") fun hidle => by
    rw [bind_apply, get_apply]
    simp only [hidle]
    rfl
  unfold rollback leaving
  exact congrArg (fun r => (r.1, { r.2 with transaction := .idle })) inner

end

/-! ## Fetching -/

/-- The next row leaves the rest of the result; behind the last one there is nothing to drain. -/
theorem nextRow_ends (h : Leftover id columns e c) :
    Ends (fun pull d => (∃ row, pull = .row row ∧ Leftover id columns e d) ∨
      (∃ tag, pull = .finished tag) ∧ d = e) (fun _ d => d = e) (nextRow id c) := by
  obtain ⟨ms, hm, ha⟩ := h.rest
  obtain ⟨e', -, hdrains, hread⟩ := remainder_read (c := c.started none) hm ha rfl
  rw [h.drains] at hdrains
  cases hdrains
  have pulled : nextRow id c =
      timedStatement (converse (pullTurn columns) failStream {}) c := by
    unfold nextRow
    rw [bind_apply, get_apply]
    simp only [h.streaming, if_true]
  rw [pulled, unlimited_apply h.unlimited]
  generalize converse (pullTurn columns) failStream {} (c.started none) = r at hread ⊢
  cases hread with
  | @row row d ms frame rest awaits drains =>
      have hd : d.started none = d := started_eq frame.deadline
      refine .inl ⟨row, rfl, ?_⟩
      dsimp only
      rw [hd]
      exact ⟨frame.status.trans h.streaming, frame.statementTimeout.trans h.unlimited,
        ⟨ms, rest, awaits⟩, hd.symm ▸ drains, h.rested.ready, h.rested.deadline,
        h.rested.statementTimeout.trans frame.statementTimeout.symm⟩
  | @ended result hr =>
      have hd := started_eq h.rested.deadline
      cases result with
      | error error => exact hd
      | ok pull =>
          cases pull with
          | row row => exact absurd rfl (hr row)
          | finished tag => exact .inr ⟨⟨tag, rfl⟩, hd⟩

end Leftover

end Connection

namespace Cursor

open Connection

variable {σ : Type} [Channel σ] {id : Nat} {columns : List Column} {e : Connection σ}
  {s : Cursor × Connection σ}

def fetches : Nat → Cursor × Connection σ → Cursor × Connection σ
  | 0, s => s
  | n + 1, s => fetches n (fetch s).2

/-- The cursor has come to the end of its result, with `e` as its connection. -/
structure Through (e : Connection σ) (s : Cursor × Connection σ) : Prop where
  exhausted : s.1.state = .exhausted
  connection : s.2 = e

inductive Midway (id : Nat) (columns : List Column) (e : Connection σ)
    (s : Cursor × Connection σ) : Prop
  | within (hk : s.1.state = .pending id) (h : Leftover id columns e s.2)
  | through (h : Through e s) (he : e.AtEase)

/-- A fetch gives a row and goes on, or comes to the end. -/
theorem fetch_midway (h : Midway id columns e s) :
    Ends (fun row s' => match row with
      | some _ => Midway id columns e s'
      | none => Through e s' ∧ e.AtEase) (fun _ s' => Through e s' ∧ e.AtEase) (fetch s) := by
  obtain ⟨k, c⟩ := s
  unfold fetch
  dsimp only
  cases h with
  | within hk h =>
      have hn := h.nextRow_ends
      dsimp only at hk hn
      rw [hk]
      dsimp only
      rcases hr : nextRow id c with ⟨error | pull, d⟩
      · rw [hr] at hn
        exact ⟨⟨rfl, hn⟩, h.atEase⟩
      · rw [hr] at hn
        rcases hn with ⟨row, rfl, hd⟩ | ⟨⟨tag, rfl⟩, hd⟩
        · exact .within rfl hd
        · exact ⟨⟨rfl, hd⟩, h.atEase⟩
  | through h he =>
      obtain ⟨hk, rfl⟩ := h
      dsimp only at hk
      rw [hk]
      simp only [isUsable_of_ready he.ready, if_true]
      exact ⟨⟨hk, rfl⟩, he⟩

theorem fetches_midway (n : Nat) (h : Midway id columns e s) :
    Midway id columns e (fetches n s) := by
  induction n generalizing s with
  | zero => exact h
  | succ n ih =>
      refine ih ?_
      have hf := fetch_midway h
      rcases hr : fetch s with ⟨error | _ | row, s'⟩
      · rw [hr] at hf
        exact .through hf.1 hf.2
      · rw [hr] at hf
        exact .through hf.1 hf.2
      · rw [hr] at hf
        exact hf

/-- More fetches than there can be rows come to the end. -/
theorem fetchOnto_through (read : List Row) {n : Nat} (h : Midway id columns e s)
    (hn : s.2.backlog < n) : Through e (fetchOnto read n s).2 := by
  induction n generalizing read s with
  | zero => omega
  | succ n ih =>
      have hf := fetch_midway h
      rw [fetchOnto, bind_apply]
      rcases hr : fetch s with ⟨error | _ | row, s'⟩
      · rw [hr] at hf
        exact hf.1
      · rw [hr] at hf
        exact hf.1
      · rw [hr] at hf
        have := fetch_lowers hr
        exact ih (row :: read) hf (by omega)

end Cursor

open Connection

/-- Abandoning a result is the same as reading it. While rows of a result are on their way, within
a well-formed rest of its answer, and no time limit is set: draining what any number of fetches
left comes to the same connection as fetching all there is, and whatever request comes next gives
the same and leaves the same behind in either case. -/
theorem abandoning_is_reading {σ : Type} [Channel σ] (c : Connection σ) (k : Cursor) {id : Nat}
    {columns : List Column} {ms : List BackendMessage} (n : Nat)
    (streaming : c.status = .streaming id columns) (unlimited : c.statementTimeout = none)
    (holds : k.state = .pending id) (wellFormed : Remainder columns.length ms)
    (awaits : Awaiting ms c) :
    let early := (Cursor.fetches n (k, c)).2
    let late := (Cursor.fetchAll (k, c)).2
    late.1.state = .exhausted ∧ timedStatement settle early = (.ok (), late.2) ∧
      commit early = commit late.2 ∧ rollback early = rollback late.2 ∧
      ping early = ping late.2 ∧ ∀ sql, begin sql early = begin sql late.2 := by
  intro early late
  obtain ⟨e, h⟩ := leftover_of_awaiting streaming unlimited wellFormed awaits
  have midway : Cursor.Midway id columns e (k, c) := .within holds h
  have through : Cursor.Through e late :=
    Cursor.fetchOnto_through [] midway (Nat.lt_succ_self _)
  rw [through.connection]
  refine ⟨through.exhausted, ?_⟩
  cases Cursor.fetches_midway n midway with
  | within _ hc =>
      exact ⟨hc.drained, hc.commit_eq, hc.rollback_eq, hc.ping_eq, hc.begin_eq⟩
  | through hs he =>
      have heq : early = e := hs.connection
      rw [heq]
      refine ⟨?_, rfl, rfl, rfl, fun _ => rfl⟩
      rw [unlimited_apply he.unlimited, started_eq he.deadline, he.settles, started_eq he.deadline]

/-- A server that says messages which the wire carries is heard to say them. -/
theorem spells_saying {ms : List BackendMessage} (h : ∀ m ∈ ms, m.Carried) :
    Spells (ms.flatMap fun m => m.encode.toOption.getD []) ms := by
  induction ms with
  | nil => exact .nil
  | cons m ms ih =>
      obtain ⟨hm, hms⟩ := List.forall_mem_cons.1 h
      obtain ⟨_, bytes, -, -, he, -⟩ := hm.encodes
      have hfront := Spells.of_encode hm.1 he
      rw [(BackendMessage.received_eq_iff m).2 hm.2.counted] at hfront
      have hbytes : m.encode.toOption.getD [] = bytes := by
        rw [he]
        rfl
      rw [List.flatMap_cons, hbytes]
      exact hfront.append (ih hms)

theorem abandoning_is_reading_two :
    let c := (Desk.perform
      { connection := (connect { autocommit := true } Script.countingToTwo).2 }
      (.execute "SELECT n FROM t" [])).2.connection
    let columns := [Column.ofField (.ofType "n" 1 TypeOid.int8 8)]
    let k : Cursor := { state := .pending 1 }
    let ms : List BackendMessage := [.dataRow [some [49]], .dataRow [some [50]],
      .commandComplete "SELECT 2", .readyForQuery .idle]
    let early := (Cursor.fetches 1 (k, c)).2
    let late := (Cursor.fetchAll (k, c)).2
    (c.status = .streaming 1 columns ∧ c.statementTimeout = none ∧ k.state = .pending 1 ∧
        Remainder columns.length ms ∧ Awaiting ms c) ∧
      late.1.state = .exhausted ∧ timedStatement settle early = (.ok (), late.2) ∧
      commit early = commit late.2 ∧ rollback early = rollback late.2 ∧
      ping early = ping late.2 ∧ ∀ sql, begin sql early = begin sql late.2 := by
  intro c columns k ms early late
  have streaming : c.status = .streaming 1 columns := by decide +kernel
  have unlimited : c.statementTimeout = none := by decide +kernel
  have remainder : Remainder columns.length ms :=
    .row rfl (.row rfl (.completed _ (.ready _)))
  have carried : ∀ m ∈ ms, m.Carried := by
    intro m hm
    simp only [ms, List.mem_cons, List.not_mem_nil, or_false] at hm
    rcases hm with rfl | rfl | rfl | rfl <;>
      exact ⟨trivial, .of_body (by decide) (by decide) rfl (by decide)⟩
  have buffered : c.buffer = ms.flatMap fun m => m.encode.toOption.getD [] := by decide +kernel
  have awaits : Awaiting ms c :=
    ⟨[], _, [], .nil _, by rw [buffered], spells_saying carried⟩
  exact ⟨⟨streaming, unlimited, rfl, remainder, awaits⟩,
    abandoning_is_reading c k 1 streaming unlimited rfl remainder awaits⟩

end SqlWire
