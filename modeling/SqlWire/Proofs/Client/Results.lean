import SqlWire.Proofs.Client.Stable

/-!
# Which results cursors hold

Every result of a connection has a number of its own. An operation works on one cursor at most;
the others keep what they hold, and what a cursor comes to hold is newer than every result before.
-/

namespace SqlWire

open Connection

theorem lookup_filter_ne {α β : Type} [DecidableEq α] (name other : α) (l : List (α × β)) :
    (l.filter (·.1 != name)).lookup other = if other = name then none else l.lookup other := by
  induction l with
  | nil => simp
  | cons p l ih =>
      obtain ⟨n, b⟩ := p
      by_cases hn : n = name
      · subst hn
        by_cases ho : other = n
        · simpa [ho] using ih
        · have hb : (other == n) = false := by simpa using ho
          simpa [ho, List.lookup_cons, hb] using ih
      · by_cases ho : other = n
        · subst ho
          simp [hn]
        · have hb : (other == n) = false := by simpa using ho
          simpa [hn, List.lookup_cons, hb] using ih

namespace Desk

section

variable {σ α : Type} {d : Desk σ}

theorem cursor_putCursor (d : Desk σ) (name other : String) (k : Cursor) :
    (d.putCursor name k).cursor? other = if other = name then some k else d.cursor? other := by
  unfold putCursor cursor?
  rw [List.lookup_cons, lookup_filter_ne]
  by_cases h : other = name
  · simp [h]
  · have hb : (other == name) = false := by simpa using h
    simp [h, hb]

theorem cursor_of_eq {d' : Desk σ} (h : d'.cursors = d.cursors) (name : String) :
    d'.cursor? name = d.cursor? name := by
  unfold cursor?
  rw [h]

@[simp] theorem run_cursors (d : Desk σ) (action : Action σ α) (outcome : α → Outcome) :
    (d.run action outcome).2.cursors = d.cursors := by
  unfold run
  rcases action d.connection with ⟨_ | _, _⟩ <;> rfl

@[simp] theorem endScope_cursors (d : Desk σ) (name : String) (action : Action σ Unit) :
    (d.endScope name action).2.cursors = d.cursors := by
  unfold endScope
  split
  · exact run_cursors _ _ _
  · rfl

theorem runCursor_other {name other : String} (h : other ≠ name) (action : CursorAction σ α)
    (outcome : α → Outcome) :
    (d.runCursor name action outcome).2.cursor? other = d.cursor? other := by
  unfold runCursor
  cases hk : d.cursor? name with
  | none => rfl
  | some k =>
      dsimp only
      rcases action (k, d.connection) with ⟨_ | _, k', c⟩
      · exact (cursor_putCursor _ _ _ _).trans (if_neg h)
      · exact (cursor_putCursor _ _ _ _).trans (if_neg h)

theorem openCursor_other {name other : String} (h : other ≠ name) :
    (d.openCursor name).2.cursor? other = d.cursor? other := by
  unfold openCursor
  rcases Cursor.open? d.connection with ⟨_ | _, c⟩
  · rfl
  · exact (cursor_putCursor _ _ _ _).trans (if_neg h)

variable [Channel σ]

@[simp] theorem beginScope_cursors (d : Desk σ) (name : String) (level : Isolation) :
    (d.beginScope name level).2.cursors = d.cursors := by
  unfold beginScope
  rcases Connection.begin level.sql d.connection with ⟨_ | _, c⟩
  · rfl
  · dsimp only
    split <;> rfl

/-- An operation leaves all cursors alone but the one that it works on. -/
theorem perform_other {operation : Operation} {name : String}
    (h : operation.cursor? ≠ some name) :
    (d.perform operation).2.cursor? name = d.cursor? name := by
  have hne {cursor : String} (hc : operation.cursor? = some cursor) : name ≠ cursor := by
    intro h
    subst h
    exact h hc
  cases operation with
  | execute | commit | rollback | ping | setAutocommit =>
      rw [perform]
      exact cursor_of_eq (run_cursors _ _ _) name
  | close | autocommit | statementTimeout | setStatementTimeout | parameter | backendKey
  | inspect => rfl
  | beginScope scope level =>
      rw [perform]
      exact cursor_of_eq (beginScope_cursors _ _ _) name
  | executeIn =>
      rw [perform]
      split
      · exact cursor_of_eq (run_cursors _ _ _) name
      · rfl
  | openCursorIn =>
      rw [perform]
      split
      · exact openCursor_other (hne rfl)
      · rfl
  | commitScope | rollbackScope =>
      rw [perform]
      exact cursor_of_eq (endScope_cursors _ _ _) name
  | dropScope =>
      rw [perform]
      split <;> rfl
  | openCursor => exact openCursor_other (hne rfl)
  | executeOn | fetch | fetchMany | fetchAll | visit =>
      rw [perform]
      exact runCursor_other (hne rfl) _ _
  | closeCursor =>
      rw [perform]
      split
      · rfl
      · exact (cursor_putCursor _ _ _ _).trans (if_neg (hne rfl))
  | dropCursor =>
      rw [perform]
      exact (lookup_filter_ne _ _ _).trans (if_neg (hne rfl))

end

end Desk

section

variable {σ : Type} [Channel σ]

omit [Channel σ] in
theorem Cursor.open_idle :
    Ensures (fun _ => True) (Cursor.open? : Action (Traced σ) Cursor)
      (fun k _ => k.state = .idle) (fun _ _ => True) :=
  (Ensures.trivial ensureUsable).bind fun _ => Ensures.pure fun _ _ => rfl

/-- A cursor that ran a statement holds the result that was opened for it. -/
theorem Cursor.execute_opens {pulled : Nat → Prop} {P : Connection (Traced σ) → Prop}
    (hP : Stable pulled P) (sql : String) (params : List Value) :
    Ensures (P ·.2) (Cursor.execute sql params)
      (fun _ s => ∃ submitted, Opens P submitted s.2 ∧
        s.1 = Cursor.began { query := some sql } submitted)
      (fun _ s => P s.2 ∧ ∀ id, s.1.state ≠ .pending id) := by
  constructor
  intro s hc
  obtain ⟨k, c⟩ := s
  have he := (hP.execute_opens sql params).run c hc
  unfold Cursor.execute
  dsimp only
  split
  · next hk =>
      refine ⟨hc, fun id h => ?_⟩
      rw [hk] at h
      cases h
  · rcases hr : Connection.execute sql params c with ⟨e | submitted, c'⟩
    · rw [hr] at he
      exact ⟨he, fun id h => by cases h⟩
    · rw [hr] at he
      exact ⟨submitted, he, rfl⟩

namespace Connection

/-- Numbers of results are not given twice. -/
theorem stable_nextResult (n : Nat) :
    Stable (fun _ => True) (fun c : Connection (Traced σ) => n ≤ c.nextResult) where
  same h hs := hs.nextResult ▸ h
  answered h _ hr := hr.frame.nextResult ▸ h
  opened {_ c' _ _} h _ hr := by
    have hn : n ≤ c'.nextResult := hr.frame.nextResult ▸ h
    exact Nat.le_succ_of_le hn
  pulling _ h _ hr := hr.frame.nextResult ▸ h
  broken h hb := by
    obtain ⟨c'', hf, -, rfl⟩ := hb
    have hn : n ≤ c''.nextResult := hf.nextResult ▸ h
    unfold markBroken
    split
    · exact hn
    · exact hn
  closed h := h

theorem Opens.id_bounds {n id : Nat} {columns : List Column} {c : Connection (Traced σ)}
    (h : Opens (n ≤ ·.nextResult) (.rows id columns) c) : n ≤ id ∧ id < c.nextResult := by
  cases h with
  | @rows c₁ c₂ _ _ _ hu hr hs =>
      have hn : n ≤ c₂.nextResult := hr.frame.nextResult ▸ hu.1
      refine ⟨hn, ?_⟩
      rw [hs.nextResult]
      exact Nat.lt_succ_self _

end Connection

theorem Cursor.execute_holds (n : Nat) (sql : String) (params : List Value) :
    Ensures (n ≤ ·.2.nextResult) (Cursor.execute sql params : CursorAction (Traced σ) Unit)
      (fun _ s => ∀ id, s.1.state = .pending id → n ≤ id ∧ id < s.2.nextResult)
      (fun _ s => ∀ id, s.1.state = .pending id → n ≤ id ∧ id < s.2.nextResult) := by
  refine (Cursor.execute_opens (stable_nextResult n) sql params).mono (fun _ h => h) ?_ ?_
  · intro _ s hs' id hs
    obtain ⟨submitted, ho, hb⟩ := hs'
    rw [hb] at hs
    cases submitted with
    | finished tag => cases hs
    | rows id' columns =>
        cases hs
        exact ho.id_bounds
  · exact fun _ s h id hs => absurd hs (h.2 id)

namespace Desk

variable {d : Desk (Traced σ)}

theorem perform_nextResult (d : Desk (Traced σ)) (operation : Operation) :
    d.connection.nextResult ≤ (d.perform operation).2.connection.nextResult :=
  perform_keeps (stable_nextResult d.connection.nextResult).invariant d operation
    (fun _ _ => True.intro) (fun _ _ _ _ _ _ => True.intro) (Nat.le_refl _)

omit [Channel σ] in
/-- A cursor that was fetched from holds what it held before, or nothing. -/
theorem runCursor_holds {α : Type} {action : CursorAction (Traced σ) α} {cursor : String}
    {outcome : α → Outcome}
    (h : ∀ k : Cursor, Ensures (Cursor.On (k.state = .pending ·) (fun _ => True)) action
      (fun _ => Cursor.On (k.state = .pending ·) (fun _ => True))
      (fun _ => Cursor.On (k.state = .pending ·) (fun _ => True)))
    {k : Cursor} (hk : (d.runCursor cursor action outcome).2.cursor? cursor = some k) {id : Nat}
    (hs : k.state = .pending id) :
    ∃ k', d.cursor? cursor = some k' ∧ k'.state = .pending id := by
  cases hc : d.cursor? cursor with
  | none =>
      unfold runCursor at hk
      rw [hc] at hk
      exact absurd (hc.symm.trans hk) (by simp)
  | some k₀ =>
      obtain ⟨k', c', hJ, he⟩ := runCursor_ensures (h k₀) d cursor outcome hc
        ⟨fun _ h => h, True.intro⟩
      rw [he, cursor_putCursor, if_pos rfl] at hk
      cases hk
      exact ⟨k₀, rfl, hJ.holds id hs⟩

/-- A cursor holds the result that it held before, or a new one. -/
theorem perform_holds {operation : Operation} {name : String} {k : Cursor} {id : Nat}
    (hk : (d.perform operation).2.cursor? name = some k) (hs : k.state = .pending id) :
    (∃ k', d.cursor? name = some k' ∧ k'.state = .pending id) ∨
      d.connection.nextResult ≤ id ∧ id < (d.perform operation).2.connection.nextResult := by
  by_cases hother : operation.cursor? ≠ some name
  · rw [perform_other hother] at hk
    exact .inl ⟨k, hk, hs⟩
  have hc : operation.cursor? = some name := by simpa using hother
  have fetches (k : Cursor) : Ensures (Cursor.On (k.state = .pending ·) (fun _ => True))
      (Cursor.fetch : CursorAction (Traced σ) (Option Row))
      (fun _ => Cursor.On (k.state = .pending ·) (fun _ => True))
      (fun _ => Cursor.On (k.state = .pending ·) (fun _ => True)) :=
    Cursor.fetch_keeps fun id _ => Ensures.trivial (Connection.nextRow id)
  have opened (hk : (d.openCursor name).2.cursor? name = some k) :
      ∃ k', d.cursor? name = some k' ∧ k'.state = .pending id := by
    have ho := (Cursor.open_idle (σ := σ)).run d.connection True.intro
    unfold openCursor at hk
    rcases hr : Cursor.open? d.connection with ⟨e | k', c⟩
    · rw [hr] at hk
      exact ⟨k, hk, hs⟩
    · rw [hr] at hk ho
      rw [cursor_putCursor, if_pos rfl] at hk
      cases hk
      exact absurd (hs.symm.trans ho) (by simp)
  cases operation with
  | openCursor cursor =>
      cases hc
      exact .inl (opened hk)
  | openCursorIn scope cursor =>
      cases hc
      rw [perform] at hk
      split at hk
      · exact .inl (opened hk)
      · exact .inl ⟨k, hk, hs⟩
  | executeOn cursor sql params =>
      cases hc
      rw [perform] at hk ⊢
      cases hn : d.cursor? name with
      | none =>
          unfold runCursor at hk
          rw [hn] at hk
          exact absurd (hn.symm.trans hk) (by simp)
      | some k₀ =>
          obtain ⟨k', c', hJ, hd⟩ := runCursor_ensures
            (Cursor.execute_holds d.connection.nextResult sql params) d name (fun _ => .done) hn
            (Nat.le_refl _)
          rw [hd, cursor_putCursor, if_pos rfl] at hk
          cases hk
          rw [hd]
          exact .inr (hJ id hs)
  | fetch cursor =>
      cases hc
      rw [perform] at hk
      exact .inl (runCursor_holds fetches hk hs)
  | fetchMany cursor n =>
      cases hc
      rw [perform] at hk
      exact .inl (runCursor_holds (fun k => Cursor.fetchOnto_keeps (fetches k) [] n) hk hs)
  | fetchAll cursor =>
      cases hc
      rw [perform] at hk
      exact .inl (runCursor_holds (fun k => Cursor.fetchAll_keeps (fetches k)) hk hs)
  | visit cursor n =>
      cases hc
      rw [perform] at hk
      refine .inl (runCursor_holds (fun k => ⟨fun s hs => ?_⟩) hk hs)
      exact Cursor.visitOnto_keeps (fetches k) [] n s hs
  | inspect cursor => exact .inl ⟨k, hk, hs⟩
  | closeCursor cursor =>
      cases hc
      rw [perform] at hk
      split at hk
      · exact .inl ⟨k, hk, hs⟩
      · next k₀ hk₀ =>
          rw [cursor_putCursor, if_pos rfl] at hk
          cases hk
          unfold Cursor.close at hs
          split at hs
          · exact .inl ⟨k₀, hk₀, hs⟩
          · cases hs
  | dropCursor cursor =>
      cases hc
      rw [perform] at hk
      have hnone := (lookup_filter_ne name name d.cursors).trans (if_pos rfl)
      exact absurd (hnone.symm.trans hk) (by simp)
  | _ => cases hc

end Desk

end

end SqlWire
