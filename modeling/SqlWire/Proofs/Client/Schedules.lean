import SqlWire.Proofs.Client.Abandoning
import SqlWire.Proofs.Client.Exhaustion

/-!
# Every schedule of fetches reads the same rows

The rows of a result may be fetched one by one, some at a time, through iterators that are left
where they are, or all at once: each fetch goes on where the one before it stopped, and together
they give the same rows and leave the same behind.
-/

namespace SqlWire

/-- How many times a fetch asks its cursor for a row when so many are left. -/
def Operation.asks (left : Nat) : Operation → Nat
  | .fetch _ => 1
  | .fetchMany _ n | .visit _ n => n
  | .fetchAll _ => left + 1
  | _ => 0

def Operation.deals (rows : List Row) : Operation → Outcome
  | .fetch _ => .row rows.head?
  | .fetchMany _ n => .rows (rows.take n)
  | .fetchAll _ => .rows rows
  | .visit _ n => .visits ((rows.take n).map .row ++ List.replicate (n - rows.length) .done)
  | _ => .done

def dealt : List Row → List Operation → List Outcome
  | _, [] => []
  | rows, operation :: rest =>
    operation.deals rows :: dealt (rows.drop (operation.asks rows.length)) rest

def asked : Nat → List Operation → Nat
  | _, [] => 0
  | left, operation :: rest => operation.asks left + asked (left - operation.asks left) rest

section

variable {operation : Operation} {name : String} {rows : List Row} {schedule : List Operation}

theorem visitedRows_rows (rows : List Row) : visitedRows (rows.map .row) = rows := by
  unfold visitedRows
  rw [List.filterMap_map]
  exact List.filterMap_some

theorem Operation.handed_deals (h : operation.fetchesFrom name = true) :
    (operation.deals rows).handed = rows.take (operation.asks rows.length) := by
  cases operation with
  | fetch cursor => cases rows <;> rfl
  | fetchMany cursor n => rfl
  | fetchAll cursor => exact (List.take_of_length_le (Nat.le_succ _)).symm
  | visit cursor n =>
      change visitedRows _ = _
      rw [visitedRows_append, visitedRows_rows, visitedRows_done, List.append_nil]
      rfl
  | _ => cases h

/-- A fetch shows that it met the end exactly if it asked for more rows than were left. -/
theorem Operation.ended_deals (h : operation.fetchesFrom name = true) :
    operation.ended (operation.deals rows) = true ↔ rows.length < operation.asks rows.length := by
  cases operation with
  | fetch cursor => cases rows <;> simp [ended, deals, asks]
  | fetchMany cursor n =>
      simp only [ended, deals, asks, List.length_take, decide_eq_true_eq]
      omega
  | fetchAll cursor => simp [ended, deals, asks]
  | visit cursor n =>
      have hrows : ((rows.take n).map Visit.row).all Visit.isRow = true := by
        refine List.all_eq_true.2 fun visit hv => ?_
        obtain ⟨row, -, rfl⟩ := List.mem_map.1 hv
        rfl
      simp only [ended, deals, asks, List.all_append, hrows, Bool.true_and, Bool.not_eq_true']
      rcases Nat.lt_or_ge rows.length n with hlt | hge
      · obtain ⟨m, hm⟩ := Nat.exists_eq_succ_of_ne_zero (Nat.sub_ne_zero_of_lt hlt)
        simp [hm, hlt, Visit.isRow]
      · simp [Nat.sub_eq_zero_of_le hge, hge]
  | _ => cases h

theorem rowsFrom_dealt (h : ∀ operation ∈ schedule, operation.fetchesFrom name = true) :
    rowsFrom name schedule (dealt rows schedule) = rows.take (asked rows.length schedule) := by
  induction schedule generalizing rows with
  | nil => rfl
  | cons operation schedule ih =>
      have hop := h operation (by simp)
      let left := rows.drop (operation.asks rows.length)
      have hrest : rowsFrom name schedule (dealt left schedule) =
          left.take (asked left.length schedule) := ih fun o ho => h o (by simp [ho])
      rw [List.length_drop] at hrest
      change operation.rowsFor name (operation.deals rows) ++ rowsFrom name schedule _ = _
      unfold Operation.rowsFor
      rw [if_pos (Operation.cursor_of_fetchesFrom hop), Operation.handed_deals hop, hrest, asked,
        List.take_add]

theorem ended_dealt (h : ∀ operation ∈ schedule, operation.fetchesFrom name = true)
    (hend : ∃ p ∈ schedule.zip (dealt rows schedule), p.1.ended p.2 = true) :
    rows.length < asked rows.length schedule := by
  induction schedule generalizing rows with
  | nil => simp at hend
  | cons operation schedule ih =>
      obtain ⟨p, hp, hended⟩ := hend
      rw [dealt, List.zip_cons_cons, List.mem_cons] at hp
      rw [asked]
      rcases hp with rfl | hp
      · have hlt := (Operation.ended_deals (h operation (by simp))).1 hended
        omega
      · have hlt := ih (fun o ho => h o (by simp [ho])) ⟨p, hp, hended⟩
        rw [List.length_drop] at hlt
        omega

end

variable {σ : Type} [Channel σ]

namespace Connection

/-- Behind the end of a result the connection can be used. -/
theorem nextRow_ends (id : Nat) : Ensures (fun _ => True) (nextRow id : Action σ Pull)
    (AfterPull (fun _ => True) (·.isUsable = true)) (fun _ _ => True) := by
  have readings : Readings (σ := σ) (fun _ => True) (fun _ _ => True) (fun _ => True)
      (·.isUsable = true) (fun _ => True) := {
    receive := (Ensures.trivial receive).mono (fun _ h => h) (fun _ _ _ => by simp)
      fun _ _ h => h
    applied := fun _ _ => rfl
    failed := fun {c} h => (isUsable_of_status (aside_failTransaction c).status).trans h
    weaken := fun _ => trivial
    lost := fun _ => trivial
    dropped := fun _ => trivial
    cut := fun _ => trivial }
  unfold nextRow
  refine Ensures.get_bind fun c _ => ?_
  cases hs : c.status with
  | ready => exact Ensures.pure fun d hd => by rw [AfterPull, hd]; simp [isUsable, hs]
  | broken | closed => exact Ensures.throw fun _ _ => trivial
  | streaming current columns =>
      dsimp only
      split
      · constructor
        intro d _
        have untimed : Ensures (fun _ => True) (converse (pullTurn columns) failStream {})
            (fun pull (c : Connection σ) => AfterPull (fun _ => True) (·.isUsable = true) pull
              { c with deadline := none }) (fun _ _ => True) := by
          refine (readings.pulls columns).mono (fun _ h => h) (fun pull _ h => ?_) fun _ _ h => h
          cases pull with
          | row row => trivial
          | finished tag => exact h
        have limited : Ensures (fun _ => True)
            (timed d.statementTimeout (converse (pullTurn columns) failStream {}) : Action σ Pull)
            (AfterPull (fun _ => True) (·.isUsable = true)) (fun _ _ => True) :=
          timed_ensures (fun _ _ => trivial) untimed
        exact limited.run d trivial
      · exact Ensures.pure fun d hd => by rw [AfterPull, hd]; simp [isUsable, hs]

end Connection

namespace Cursor

variable {rows : List Row} {e s s' : Cursor × Connection σ}

/-- Behind the end of a result there is nothing but its end. -/
theorem fetch_end (h : fetch s = (.ok none, s')) : fetch s' = (.ok none, s') := by
  have spent {k : Cursor} {c : Connection σ} (hk : k.state = .exhausted)
      (hc : c.isUsable = true) : fetch (k, c) = (.ok none, k, c) := by
    rw [fetch_exhausted c hk, hc]
    rfl
  obtain ⟨k, c⟩ := s
  cases hk : k.state with
  | exhausted =>
      rw [fetch_exhausted c hk] at h
      cases hu : c.isUsable with
      | true =>
          rw [hu] at h
          cases h
          exact spent hk hu
      | false =>
          rw [hu] at h
          cases h
  | pending id =>
      have ends := (Connection.nextRow_ends id).run c trivial
      unfold fetch at h
      simp only [hk] at h
      rcases hr : Connection.nextRow id c with ⟨error | row | tag, d⟩
      · rw [hr] at h
        cases h
      · rw [hr] at h
        cases h
      · rw [hr] at h ends
        cases h
        exact spent rfl ends
  | closed | idle =>
      unfold fetch at h
      simp only [hk] at h
      cases h

/-- What has been read stands in front of what is read. -/
theorem fetchOnto_eq (read : List Row) (n : Nat) (s : Cursor × Connection σ) :
    fetchOnto read n s = ((fetchMany n s).1.map (read.reverse ++ ·), (fetchMany n s).2) := by
  unfold fetchMany
  induction n generalizing read s with
  | zero =>
      change (Except.ok read.reverse, s) = (Except.ok (read.reverse ++ []), s)
      rw [List.append_nil]
  | succ n ih =>
      rw [fetchOnto, fetchOnto, bind_apply, bind_apply]
      rcases fetch s with ⟨error | _ | row, s'⟩
      · rfl
      · change (Except.ok read.reverse, s') = (Except.ok (read.reverse ++ []), s')
        rw [List.append_nil]
      · dsimp only
        rw [ih (row :: read) s', ih [row] s']
        cases (fetchOnto [] n s').1 with
        | error error => rfl
        | ok rows => simp [Except.map]

/-- Fetching all that is left gives these rows and comes to `e`. -/
def Drains (rows : List Row) (e s : Cursor × Connection σ) : Prop :=
  fetchAll s = (.ok rows, e)

theorem drains_end (h : fetch s = (.ok none, s)) : Drains [] s s := by
  have he : fetchAll s = fetchOnto [] (s.2.backlog + 1) s := rfl
  unfold Drains
  rw [he, fetchOnto, bind_apply, h]
  rfl

/-- A fetch takes the first of the rows that are left. -/
theorem Drains.fetch (h : Drains rows e s) :
    (fetch s).1 = .ok rows.head? ∧ Drains rows.tail e (Cursor.fetch s).2 ∧
      (rows = [] → (Cursor.fetch s).2 = e) := by
  have he : fetchAll s = fetchOnto [] (s.2.backlog + 1) s := rfl
  unfold Drains at h
  rw [he, fetchOnto, bind_apply] at h
  rcases hf : Cursor.fetch s with ⟨error | _ | row, s'⟩
  · rw [hf] at h
    cases h
  · rw [hf] at h
    cases h
    exact ⟨rfl, drains_end (fetch_end hf), fun _ => rfl⟩
  · rw [hf] at h
    dsimp only at h
    have hlow := fetch_lowers hf
    rw [fetchOnto_eq, ← fetchAll_eq hlow] at h
    rcases hall : fetchAll s' with ⟨error | rest, t⟩
    · rw [hall] at h
      cases h
    · rw [hall] at h
      cases h
      exact ⟨rfl, hall, fun hnil => absurd hnil (List.cons_ne_nil _ _)⟩

theorem Drains.fetches_end (h : Drains [] e e) (n : Nat) : fetches n e = e := by
  induction n with
  | zero => rfl
  | succ n ih => rw [fetches, h.fetch.2.2 rfl, ih]

theorem fetches_add (a b : Nat) (s : Cursor × Connection σ) :
    fetches (a + b) s = fetches b (fetches a s) := by
  induction a generalizing s with
  | zero => rw [Nat.zero_add, fetches]
  | succ a ih => rw [Nat.succ_add, fetches, fetches, ih]

/-- After so many fetches so many rows fewer are left. -/
theorem Drains.fetches (h : Drains rows e s) (n : Nat) :
    Drains (rows.drop n) e (fetches n s) ∧ (rows.length < n → Cursor.fetches n s = e) := by
  induction n generalizing rows s with
  | zero => exact ⟨h, fun hlt => absurd hlt (Nat.not_lt_zero _)⟩
  | succ n ih =>
      obtain ⟨-, hrest, hend⟩ := h.fetch
      cases rows with
      | nil =>
          have hs := hend rfl
          rw [Cursor.fetches, hs]
          rw [hs] at hrest
          rw [hrest.fetches_end]
          exact ⟨by simpa using hrest, fun _ => rfl⟩
      | cons row rows =>
          obtain ⟨hd, hl⟩ := ih hrest
          exact ⟨hd, fun hlt => hl (Nat.lt_of_succ_lt_succ hlt)⟩

theorem Drains.fetchMany (h : Drains rows e s) (n : Nat) :
    fetchMany n s = (.ok (rows.take n), Cursor.fetches n s) := by
  induction n generalizing rows s with
  | zero => rfl
  | succ n ih =>
      obtain ⟨hrow, hrest, hend⟩ := h.fetch
      unfold Cursor.fetchMany at ih ⊢
      rw [fetchOnto, bind_apply, Cursor.fetches]
      rcases hf : Cursor.fetch s with ⟨r, s'⟩
      rw [hf] at hrow hrest hend
      dsimp only at hrow hrest hend
      cases rows with
      | nil =>
          cases hend rfl
          rw [hrow, hrest.fetches_end]
          rfl
      | cons row rows =>
          rw [hrow]
          dsimp only [List.head?_cons]
          rw [fetchOnto_eq]
          unfold Cursor.fetchMany
          rw [ih hrest]
          rfl

theorem Drains.fetchAll (h : Drains rows e s) :
    Cursor.fetchAll s = (.ok rows, Cursor.fetches (rows.length + 1) s) := by
  rw [(h.fetches _).2 (Nat.lt_succ_self _)]
  exact h

theorem Drains.visitOnto (h : Drains rows e s) (visited : List Visit) (n : Nat) :
    visitOnto visited n s =
      (visited.reverse ++ ((rows.take n).map .row ++ List.replicate (n - rows.length) .done),
        Cursor.fetches n s) := by
  induction n generalizing rows s visited with
  | zero => simp [Cursor.visitOnto, Cursor.fetches]
  | succ n ih =>
      obtain ⟨hrow, hrest, hend⟩ := h.fetch
      rw [Cursor.visitOnto, Cursor.fetches]
      rcases hf : Cursor.fetch s with ⟨r, s'⟩
      rw [hf] at hrow hrest hend
      dsimp only at hrow hrest hend
      cases rows with
      | nil =>
          cases hend rfl
          rw [hrow, hrest.fetches_end]
          simp
      | cons row rows =>
          rw [hrow]
          dsimp only [List.head?_cons]
          rw [ih hrest]
          simp [Nat.succ_sub_succ]

theorem Drains.visit (h : Drains rows e s) (n : Nat) :
    visit n s =
      ((rows.take n).map .row ++ List.replicate (n - rows.length) .done, Cursor.fetches n s) :=
  h.visitOnto [] n

end Cursor

namespace Desk

open Cursor

variable {d e : Desk σ} {name : String} {k : Cursor} {rows : List Row} {operation : Operation}

omit [Channel σ] in
/-- The desk with a cursor and its connection in the place of those that were there. -/
theorem putCursor_putCursor (d : Desk σ) (name : String) (k k' : Cursor) (c c' : Connection σ) :
    { { d with connection := c }.putCursor name k with connection := c' }.putCursor name k' =
      { d with connection := c' }.putCursor name k' := by
  unfold putCursor
  simp

def fetched (d : Desk σ) (name : String) (k : Cursor) (n : Nat) : Desk σ :=
  { d with connection := (fetches n (k, d.connection)).2 }.putCursor name
    (fetches n (k, d.connection)).1

theorem cursor_fetched (d : Desk σ) (name : String) (k : Cursor) (n : Nat) :
    (d.fetched name k n).cursor? name = some (fetches n (k, d.connection)).1 := by
  unfold fetched
  rw [cursor_putCursor, if_pos rfl]

theorem fetched_fetched (d : Desk σ) (name : String) (k : Cursor) (a b : Nat) :
    (d.fetched name k a).fetched name (fetches a (k, d.connection)).1 b =
      d.fetched name k (a + b) := by
  unfold fetched
  rw [fetches_add]
  exact putCursor_putCursor d name _ _ _ _

/-- What a fetch gives and leaves while fetching all that is left would succeed. -/
theorem perform_deals (operation : Operation) {t : Cursor × Connection σ}
    (hk : d.cursor? name = some k) (h : Drains rows t (k, d.connection))
    (hop : operation.fetchesFrom name = true) :
    d.perform operation =
      (operation.deals rows, d.fetched name k (operation.asks rows.length)) := by
  cases operation with
  | fetch cursor =>
      cases Operation.cursor_of_fetchesFrom hop
      rw [perform, runCursor_apply hk, h.fetch.1]
      rfl
  | fetchMany cursor n =>
      cases Operation.cursor_of_fetchesFrom hop
      rw [perform, runCursor_apply hk, h.fetchMany]
      rfl
  | fetchAll cursor =>
      cases Operation.cursor_of_fetchesFrom hop
      rw [perform, runCursor_apply hk, h.fetchAll]
      rfl
  | visit cursor n =>
      cases Operation.cursor_of_fetchesFrom hop
      rw [perform, runCursor_apply hk, h.visit]
      rfl
  | _ => cases hop

/-- Fetching all that is left with this cursor gives these rows. -/
theorem drains_of_fetchAll (h : d.perform (.fetchAll name) = (.rows rows, e)) :
    ∃ k t, d.cursor? name = some k ∧ Drains rows t (k, d.connection) := by
  rw [perform] at h
  cases hk : d.cursor? name with
  | none =>
      unfold runCursor at h
      rw [hk] at h
      cases h
  | some k =>
      rw [runCursor_apply hk] at h
      rcases hr : fetchAll (k, d.connection) with ⟨error | out, t⟩
      · rw [hr] at h
        cases h
      · rw [hr] at h
        cases h
        exact ⟨k, t, rfl, hr⟩

/-- Each fetch goes on where the ones before it stopped. -/
theorem performAll_deals {t : Cursor × Connection σ} {schedule : List Operation}
    (hk : d.cursor? name = some k) (h : Drains rows t (k, d.connection))
    (hop : ∀ operation ∈ schedule, operation.fetchesFrom name = true) (hne : schedule ≠ []) :
    d.performAll schedule =
      (dealt rows schedule, d.fetched name k (asked rows.length schedule)) := by
  induction schedule generalizing d k rows with
  | nil => exact absurd rfl hne
  | cons operation schedule ih =>
      have hfirst := perform_deals operation hk h (hop operation (by simp))
      cases schedule with
      | nil =>
          rw [performAll, hfirst]
          rfl
      | cons next schedule =>
          have hrest := ih (cursor_fetched d name k (operation.asks rows.length))
            (h.fetches (operation.asks rows.length)).1 (fun o ho => hop o (by simp [ho]))
            (List.cons_ne_nil _ _)
          rw [List.length_drop, fetched_fetched] at hrest
          rw [performAll, hfirst]
          dsimp only
          rw [hrest]
          rfl

/-- More fetches than there are rows come to the same. -/
theorem fetched_end {t : Cursor × Connection σ} (h : Drains rows t (k, d.connection)) {n : Nat}
    (hn : rows.length < n) : d.fetched name k n = d.fetched name k (rows.length + 1) := by
  unfold fetched
  rw [(h.fetches n).2 hn, (h.fetches (rows.length + 1)).2 (Nat.lt_succ_self _)]

/-- If fetching all rows of a cursor would succeed, any fetches from it succeed, and each gives the
next of these rows. Fetching all that they leave gives the others, and leaves cursor, connection
and everything else as fetching all rows at once does. Once one of them has met the end, they have
given all the rows and left everything so. In particular `a` rows and then `b` rows are the same as
`a + b` rows. -/
theorem schedules_read_the_same {σ : Type} [Channel σ] (d e : Desk σ) (name : String)
    (rows : List Row) (schedule : List Operation)
    (all : d.perform (.fetchAll name) = (.rows rows, e))
    (fetching : ∀ operation ∈ schedule, operation.fetchesFrom name = true) :
    let run := d.performAll schedule
    let given := rowsFrom name schedule run.1
    run.1 = dealt rows schedule ∧
      (∃ rest, given ++ rest = rows ∧ run.2.perform (.fetchAll name) = (.rows rest, e)) ∧
      ((∃ p ∈ schedule.zip run.1, p.1.ended p.2 = true) → given = rows ∧ run.2 = e) ∧
      ∀ a b, ∃ xs ys d₁ d₂, d.perform (.fetchMany name a) = (.rows xs, d₁) ∧
        d₁.perform (.fetchMany name b) = (.rows ys, d₂) ∧
        d.perform (.fetchMany name (a + b)) = (.rows (xs ++ ys), d₂) := by
  intro run given
  obtain ⟨k, t, hk, h⟩ := drains_of_fetchAll all
  have hall := perform_deals (.fetchAll name) hk h (by simp [Operation.fetchesFrom])
  have he : e = d.fetched name k (rows.length + 1) := congrArg Prod.snd (all.symm.trans hall)
  have many {d : Desk σ} {k : Cursor} {rows : List Row} (hk : d.cursor? name = some k)
      (h : Drains rows t (k, d.connection)) (n : Nat) :
      d.perform (.fetchMany name n) = (.rows (rows.take n), d.fetched name k n) :=
    perform_deals (.fetchMany name n) hk h (by simp [Operation.fetchesFrom])
  have parts (a b : Nat) : ∃ xs ys d₁ d₂, d.perform (.fetchMany name a) = (.rows xs, d₁) ∧
      d₁.perform (.fetchMany name b) = (.rows ys, d₂) ∧
      d.perform (.fetchMany name (a + b)) = (.rows (xs ++ ys), d₂) := by
    refine ⟨_, _, _, _, many hk h a, many (cursor_fetched d name k a) (h.fetches a).1 b, ?_⟩
    rw [many hk h, List.take_add, fetched_fetched]
  by_cases hne : schedule = []
  · subst hne
    exact ⟨rfl, ⟨rows, rfl, all⟩, fun hend => by simp at hend, parts⟩
  · have hrun : run = (dealt rows schedule, d.fetched name k (asked rows.length schedule)) :=
      performAll_deals hk h fetching hne
    have hgiven : given = rows.take (asked rows.length schedule) := by
      change rowsFrom name schedule run.1 = _
      rw [hrun]
      exact rowsFrom_dealt fetching
    have hlater := perform_deals (.fetchAll name)
      (cursor_fetched d name k (asked rows.length schedule))
      (h.fetches (asked rows.length schedule)).1 (by simp [Operation.fetchesFrom])
    rw [fetched_fetched] at hlater
    refine ⟨by rw [hrun], ⟨rows.drop (asked rows.length schedule), ?_, ?_⟩, fun hend => ?_, parts⟩
    · rw [hgiven, List.take_append_drop]
    · rw [hrun, hlater, he, fetched_end h]
      · rfl
      · simp only [Operation.asks, List.length_drop]
        omega
    · rw [hrun] at hend ⊢
      have hlt := ended_dealt fetching hend
      exact ⟨by rw [hgiven, List.take_of_length_le (Nat.le_of_lt hlt)],
        by rw [he]; exact fetched_end h hlt⟩

theorem schedules_read_the_same_two :
    let d : Desk Script := (performAll
      { connection := (Connection.connect { autocommit := true } Script.countingToTwo).2 }
      [.openCursor "a", .executeOn "a" "SELECT n FROM t" []]).2
    let rows := (d.perform (.fetchAll "a")).1.handed
    let e := (d.perform (.fetchAll "a")).2
    let schedule : List Operation := [.fetch "a", .visit "a" 1, .fetchMany "a" 3]
    let run := d.performAll schedule
    (d.perform (.fetchAll "a") = (.rows rows, e) ∧
        (∀ operation ∈ schedule, operation.fetchesFrom "a" = true) ∧
        ∃ p ∈ schedule.zip run.1, p.1.ended p.2 = true) ∧
      rows.length = 2 ∧ rowsFrom "a" schedule run.1 = rows ∧ run.2 = e := by
  intro d rows e schedule run
  have all : d.perform (.fetchAll "a") = (.rows rows, e) :=
    Prod.ext (by decide +kernel) rfl
  have fetching : ∀ operation ∈ schedule, operation.fetchesFrom "a" = true := by decide +kernel
  have ended : ∃ p ∈ schedule.zip run.1, p.1.ended p.2 = true := by decide +kernel
  obtain ⟨hrows, hrun⟩ :=
    (schedules_read_the_same d e "a" rows schedule all fetching).2.2.1 ended
  exact ⟨⟨all, fetching, ended⟩, by decide +kernel, hrows, hrun⟩

end Desk

end SqlWire
