import SqlWire.Proofs.Client.Progress
import SqlWire.Proofs.Client.Rows

/-!
# The end of a result is final

A fetch that meets the end of a result, or an error on the way to it, leaves its cursor exhausted.
From then on, until the cursor runs another statement or is closed, nothing that is done anywhere
changes it, and fetching from it asks nothing of the connection.
-/

namespace SqlWire

def Operation.fetchesFrom (name : String) : Operation → Bool
  | .fetch cursor | .fetchMany cursor _ | .fetchAll cursor | .visit cursor _ => cursor == name
  | _ => false

/-- The cursor is made to run a statement, or is closed, or its name is taken from it. -/
def Operation.replaces (name : String) : Operation → Bool
  | .closeCursor cursor | .dropCursor cursor => cursor == name
  | operation => operation.renews name

def Visit.isRow : Visit → Bool
  | .row _ => true
  | _ => false

/-- What a fetch gave shows that it met the end of the result, or an error on the way to it. -/
def Operation.ended : Operation → Outcome → Bool
  | .fetch _, .row next => next.isNone
  | .fetchMany _ n, .rows rows => rows.length < n
  | .fetchAll _, .rows _ => true
  | .fetch _, .failed _ | .fetchMany .., .failed _ | .fetchAll _, .failed _ => true
  | .visit .., .visits visits => !visits.all Visit.isRow
  | _, _ => false

def Operation.spent? (usable : Bool) : Operation → Option Outcome
  | .fetch _ => some (if usable then .row none else .failed .connectionClosed)
  | .fetchMany _ (_ + 1) | .fetchAll _ =>
    some (if usable then .rows [] else .failed .connectionClosed)
  | .visit _ (n + 1) =>
    some (.visits ((if usable then .done else .failed .connectionClosed) ::
      List.replicate n .done))
  | _ => none

def Outcome.of {α : Type} (wrap : α → Outcome) : Except ClientError α → Outcome
  | .ok a => wrap a
  | .error e => .failed e

theorem Operation.cursor_of_fetchesFrom {operation : Operation} {name : String}
    (h : operation.fetchesFrom name = true) : operation.cursor? = some name := by
  cases operation with
  | fetch cursor | fetchMany cursor n | fetchAll cursor | visit cursor n =>
      exact congrArg some (by simpa [fetchesFrom] using h)
  | _ => cases h

theorem Operation.not_replaces_of_fetchesFrom {operation : Operation} {name : String}
    (h : operation.fetchesFrom name = true) : operation.replaces name = false := by
  cases operation with
  | fetch | fetchMany | fetchAll | visit => rfl
  | _ => cases h

variable {σ : Type} [Channel σ]

namespace Cursor

def Answered (k : Cursor) : Prop :=
  (∃ id, k.state = .pending id) ∨ k.state = .exhausted

section

variable {k : Cursor} (c : Connection σ)

theorem fetch_exhausted (h : k.state = .exhausted) :
    fetch (k, c) = (if c.isUsable then .ok none else .error .connectionClosed, k, c) := by
  unfold fetch
  simp only [h]

theorem fetchMany_exhausted (h : k.state = .exhausted) (n : Nat) :
    fetchMany (n + 1) (k, c) =
      (if c.isUsable then .ok [] else .error .connectionClosed, k, c) := by
  unfold fetchMany fetchOnto
  rw [bind_apply, fetch_exhausted c h]
  cases c.isUsable with
  | true => rfl
  | false => rfl

theorem visit_exhausted (h : k.state = .exhausted) (n : Nat) :
    visit (n + 1) (k, c) =
      ((if c.isUsable then .done else .failed .connectionClosed) :: List.replicate n .done,
        k, c) := by
  unfold visit visitOnto
  rw [fetch_exhausted c h]
  cases c.isUsable with
  | true => rfl
  | false => rfl

end

/-- A fetch leaves an exhausted cursor as it is. -/
theorem fetch_same {k : Cursor} (h : k.state = .exhausted) :
    Ensures (fun s : Cursor × Connection σ => s.1 = k) fetch (fun _ s => s.1 = k)
      (fun _ s => s.1 = k) := by
  refine Ensures.of_state fun s hs => ?_
  obtain ⟨k', c⟩ := s
  subst hs
  rw [fetch_exhausted c h]

theorem execute_answered (sql : String) (params : List Value) :
    Ensures (fun _ => True) (execute sql params : CursorAction σ Unit)
      (fun _ s => s.1.Answered) (fun _ _ => True) := by
  constructor
  intro s _
  obtain ⟨k, c⟩ := s
  unfold execute
  dsimp only
  split
  · trivial
  · rcases Connection.execute sql params c with ⟨e | ⟨id, columns⟩ | tag, c'⟩
    · trivial
    · exact .inl ⟨id, rfl⟩
    · exact .inr rfl

/-- A fetch that gives no row leaves the cursor exhausted. -/
theorem fetch_answered :
    Ensures (fun s : Cursor × Connection σ => s.1.Answered) fetch
      (fun next s => s.1.Answered ∧ (next = none → s.1.state = .exhausted))
      (fun _ s => s.1.state = .exhausted) := by
  constructor
  intro s hs
  obtain ⟨k, c⟩ := s
  rcases hs with ⟨id, hk⟩ | hk
  · dsimp only at hk
    unfold fetch
    simp only [hk]
    rcases Connection.nextRow id c with ⟨e | row | tag, c'⟩
    · rfl
    · exact ⟨.inl ⟨id, rfl⟩, nofun⟩
    · exact ⟨.inr rfl, fun _ => rfl⟩
  · rw [fetch_exhausted c hk]
    cases c.isUsable with
    | true => exact ⟨.inr hk, fun _ => hk⟩
    | false => exact hk

theorem fetch_keeps_answered :
    Ensures (fun s : Cursor × Connection σ => s.1.Answered) fetch (fun _ s => s.1.Answered)
      (fun _ s => s.1.Answered) :=
  fetch_answered.mono (fun _ h => h) (fun _ _ h => h.1) fun _ _ h => .inr h

/-- Fewer rows than were asked for are all that there were. -/
theorem fetchOnto_answered (read : List Row) (n : Nat) :
    Ensures (fun s : Cursor × Connection σ => s.1.Answered) (fetchOnto read n)
      (fun rows s => rows.length < read.length + n → s.1.state = .exhausted)
      (fun _ s => s.1.state = .exhausted) := by
  induction n generalizing read with
  | zero => exact Ensures.pure fun _ _ h => absurd h (by simp)
  | succ n ih =>
      refine fetch_answered.bind fun next => ?_
      cases next with
      | none => exact Ensures.pure fun _ h _ => h.2 rfl
      | some row =>
          refine (ih (row :: read)).mono (fun _ h => h.1) (fun rows s h hlt => h ?_)
            fun _ _ h => h
          rw [List.length_cons]
          omega

/-- To fetch all rows is to meet the end, or an error. -/
theorem fetchAll_answered :
    Ensures (fun s : Cursor × Connection σ => s.1.Answered) fetchAll
      (fun _ s => s.1.state = .exhausted) (fun _ s => s.1.state = .exhausted) := by
  constructor
  intro s hs
  have he : fetchAll s = fetchOnto [] (s.2.backlog + 1) s := rfl
  have hf := (fetchOnto_answered [] (s.2.backlog + 1)).run s hs
  rw [he]
  rcases hr : fetchOnto [] (s.2.backlog + 1) s with ⟨e | rows, s'⟩
  · rw [hr] at hf
    exact hf
  · rw [hr] at hf
    have hlen := fetchOnto_length hr
    exact hf (by omega)

/-- A step that gives no row is the last one that asks for any. -/
theorem visitOnto_answered (visited : List Visit) (hv : visited.all Visit.isRow = true) (n : Nat)
    (s : Cursor × Connection σ) (hs : s.1.Answered)
    (h : (visitOnto visited n s).1.all Visit.isRow = false) :
    (visitOnto visited n s).2.1.state = .exhausted := by
  induction n generalizing visited s with
  | zero =>
      have hall : visited.reverse.all Visit.isRow = true := List.all_reverse.trans hv
      exact absurd (hall.symm.trans h) (by simp)
  | succ n ih =>
      have hf := fetch_answered.run s hs
      unfold visitOnto at h ⊢
      rcases hr : fetch s with ⟨e | _ | row, s'⟩
      · rw [hr] at hf
        exact hf
      · rw [hr] at hf
        exact hf.2 rfl
      · rw [hr] at hf h
        exact ih (.row row :: visited) (by simpa [Visit.isRow] using hv) s' hf.1 h

end Cursor

namespace Desk

open Cursor

variable {d : Desk σ} {name : String} {k : Cursor} {operation : Operation}

omit [Channel σ] in
theorem runCursor_apply {α : Type} {action : CursorAction σ α} {outcome : α → Outcome}
    (hk : d.cursor? name = some k) :
    d.runCursor name action outcome =
      (.of outcome (action (k, d.connection)).1,
        { d with connection := (action (k, d.connection)).2.2 }.putCursor name
          (action (k, d.connection)).2.1) := by
  unfold runCursor
  rw [hk]
  dsimp only
  rcases action (k, d.connection) with ⟨e | a, k', c⟩
  · rfl
  · rfl

/-- What fetching keeps is kept by everything that does not replace the cursor. -/
theorem perform_fetching {P : Cursor → Prop}
    (hP : Ensures (fun s : Cursor × Connection σ => P s.1) fetch (fun _ s => P s.1)
      (fun _ s => P s.1)) (hk : d.cursor? name = some k) (h : P k)
    (hop : operation.replaces name = false) :
    ∃ k', (d.perform operation).2.cursor? name = some k' ∧ P k' := by
  have fetched {α : Type} {action : CursorAction σ α} {outcome : α → Outcome}
      (ha : Ensures (fun s : Cursor × Connection σ => P s.1) action (fun _ s => P s.1)
        (fun _ s => P s.1)) :
      ∃ k', (d.runCursor name action outcome).2.cursor? name = some k' ∧ P k' := by
    obtain ⟨k', c, hk', he⟩ := runCursor_ensures ha d name outcome hk h
    exact ⟨k', by rw [he, cursor_putCursor, if_pos rfl], hk'⟩
  by_cases hown : operation.cursor? = some name
  · cases operation with
    | executeOn | openCursor | openCursorIn | closeCursor | dropCursor =>
        cases hown
        simp [Operation.replaces, Operation.renews] at hop
    | fetch cursor =>
        cases hown
        exact fetched hP
    | fetchMany cursor n =>
        cases hown
        exact fetched (fetchOnto_keeps hP [] n)
    | fetchAll cursor =>
        cases hown
        exact fetched (fetchAll_keeps hP)
    | visit cursor n =>
        cases hown
        exact fetched ⟨fun s hs => visitOnto_keeps hP [] n s hs⟩
    | inspect cursor => exact ⟨k, hk, h⟩
    | _ => cases hown
  · exact ⟨k, by rw [perform_other hown, hk], h⟩

theorem performAll_fetching {P : Cursor → Prop}
    (hP : Ensures (fun s : Cursor × Connection σ => P s.1) fetch (fun _ s => P s.1)
      (fun _ s => P s.1)) {operations : List Operation} (hk : d.cursor? name = some k) (h : P k)
    (hop : ∀ operation ∈ operations, operation.replaces name = false) :
    ∃ k', (d.performAll operations).2.cursor? name = some k' ∧ P k' := by
  induction operations generalizing d k with
  | nil => exact ⟨k, hk, h⟩
  | cons operation operations ih =>
      obtain ⟨k', hk', h'⟩ := perform_fetching hP hk h (hop operation (by simp))
      exact ih hk' h' fun o ho => hop o (by simp [ho])

/-- A fetch that met the end of the result, or an error, leaves its cursor exhausted. -/
theorem perform_ended (hk : d.cursor? name = some k) (h : k.Answered)
    (hop : operation.fetchesFrom name = true)
    (hend : operation.ended (d.perform operation).1 = true) :
    ∃ k', (d.perform operation).2.cursor? name = some k' ∧ k'.state = .exhausted := by
  have ends {α : Type} {action : CursorAction σ α} {outcome : α → Outcome} {Q : α → Prop}
      (ha : Ensures (fun s : Cursor × Connection σ => s.1.Answered) action
        (fun a s => Q a → s.1.state = .exhausted) (fun _ s => s.1.state = .exhausted))
      (hQ : ∀ a, operation.ended (outcome a) = true → Q a)
      (he : operation.ended (d.runCursor name action outcome).1 = true) :
      ∃ k', (d.runCursor name action outcome).2.cursor? name = some k' ∧
        k'.state = .exhausted := by
    have hr := ha.run (k, d.connection) h
    rw [runCursor_apply hk] at he ⊢
    refine ⟨_, by rw [cursor_putCursor, if_pos rfl], ?_⟩
    rcases hx : action (k, d.connection) with ⟨e | a, k', c⟩
    · rw [hx] at hr
      exact hr
    · rw [hx] at hr he
      exact hr (hQ a he)
  cases operation with
  | fetch cursor =>
      cases Operation.cursor_of_fetchesFrom hop
      exact ends (Q := (· = none)) (fetch_answered.mono (fun _ h => h) (fun _ _ h => h.2)
        fun _ _ h => h) (fun next h => by simpa [Operation.ended] using h) hend
  | fetchMany cursor n =>
      cases Operation.cursor_of_fetchesFrom hop
      refine ends (Q := (·.length < n)) ((fetchOnto_answered [] n).mono (fun _ h => h)
        (fun rows s h hlt => h (by simpa using hlt)) fun _ _ h => h)
        (fun rows h => by simpa [Operation.ended] using h) hend
  | fetchAll cursor =>
      cases Operation.cursor_of_fetchesFrom hop
      exact ends (Q := fun _ => True) (fetchAll_answered.mono (fun _ h => h) (fun _ _ h _ => h)
        fun _ _ h => h) (fun _ _ => trivial) hend
  | visit cursor n =>
      cases Operation.cursor_of_fetchesFrom hop
      refine ends (Q := fun visits => visits.all Visit.isRow = false) ⟨fun s hs => ?_⟩
        (fun visits h => by simpa [Operation.ended] using h) hend
      exact visitOnto_answered [] rfl n s hs
  | _ => cases hop

/-- A fetch from an exhausted cursor leaves connection and cursor as they are. -/
theorem perform_spent (hk : d.cursor? name = some k) (hs : k.state = .exhausted)
    (hop : operation.fetchesFrom name = true) {outcome : Outcome}
    (ho : operation.spent? d.connection.isUsable = some outcome) :
    (d.perform operation).1 = outcome ∧ (d.perform operation).2.connection = d.connection := by
  have gives {α : Type} {action : CursorAction σ α} {wrap : α → Outcome}
      {r : Except ClientError α} (ha : action (k, d.connection) = (r, k, d.connection))
      (hr : Outcome.of wrap r = outcome) :
      (d.runCursor name action wrap).1 = outcome ∧
        (d.runCursor name action wrap).2.connection = d.connection := by
    rw [runCursor_apply hk, ha]
    exact ⟨hr, rfl⟩
  have either {α : Type} {wrap : α → Outcome} {a : α}
      (h : (if d.connection.isUsable then wrap a else .failed .connectionClosed) = outcome) :
      Outcome.of wrap (if d.connection.isUsable then .ok a else .error .connectionClosed) =
        outcome := by
    rw [← h]
    cases d.connection.isUsable with
    | true => rfl
    | false => rfl
  cases operation with
  | fetch cursor =>
      cases Operation.cursor_of_fetchesFrom hop
      exact gives (fetch_exhausted _ hs) (either (Option.some.inj ho))
  | fetchMany cursor n =>
      cases Operation.cursor_of_fetchesFrom hop
      cases n with
      | zero => cases ho
      | succ n => exact gives (fetchMany_exhausted _ hs n) (either (Option.some.inj ho))
  | fetchAll cursor =>
      cases Operation.cursor_of_fetchesFrom hop
      exact gives (fetchMany_exhausted _ hs _) (either (Option.some.inj ho))
  | visit cursor n =>
      cases Operation.cursor_of_fetchesFrom hop
      cases n with
      | zero => cases ho
      | succ n =>
          refine gives (r := .ok _) ?_ (Option.some.inj ho)
          rw [visit_exhausted _ hs]
  | _ => cases hop

/-- Once a fetch has met the end of the result of an answered statement, or an error on the way to
it, its cursor is exhausted and stays as it is, whatever is done with the connection, with its
scopes and with its other cursors, until the cursor runs another statement or is closed. A fetch
of a row at least then gives the end of the result while the connection can be used, and is
refused afterwards; it leaves the connection as it is, so it neither sends nor reads anything. -/
theorem end_of_result_is_final {σ : Type} [Channel σ] (d : Desk σ) (name sql : String)
    (params : List Value) (earlier later : List Operation) (operation : Operation) :
    let asked := d.perform (.executeOn name sql params)
    let met := (asked.2.performAll earlier).2.perform operation
    let after := (met.2.performAll later).2
    asked.1 = .done → (∀ o ∈ earlier ++ later, o.replaces name = false) →
      operation.fetchesFrom name = true → operation.ended met.1 = true →
      ∃ k, met.2.cursor? name = some k ∧ k.state = .exhausted ∧ after.cursor? name = some k ∧
        ∀ next outcome, next.fetchesFrom name = true →
          next.spent? after.connection.isUsable = some outcome →
          (after.perform next).1 = outcome ∧
            (after.perform next).2.connection = after.connection ∧
            (after.perform next).2.cursor? name = some k := by
  intro asked met after hdone hothers hfetch hended
  obtain ⟨hearlier, hlater⟩ := List.forall_mem_append.1 hothers
  obtain ⟨k₀, k₁, c, -, hrun, hasked⟩ := executeOn_done hdone
  have answered : k₁.Answered := (execute_answered sql params).ok trivial hrun
  have held : asked.2.cursor? name = some k₁ := by
    have ha : asked.2 = { d with connection := c }.putCursor name k₁ := hasked
    rw [ha, cursor_putCursor, if_pos rfl]
  obtain ⟨k₂, hk₂, answered₂⟩ := performAll_fetching fetch_keeps_answered held answered hearlier
  obtain ⟨k, hk, exhausted⟩ := perform_ended hk₂ answered₂ hfetch hended
  have stays := fetch_same (σ := σ) exhausted
  obtain ⟨_, hafter, rfl⟩ := performAll_fetching (P := (· = k)) stays hk rfl hlater
  refine ⟨_, hk, exhausted, hafter, fun next outcome hnext hspent => ?_⟩
  obtain ⟨hout, hconnection⟩ := perform_spent hafter exhausted hnext hspent
  obtain ⟨_, hlast, rfl⟩ := perform_fetching (P := (· = _)) stays hafter rfl
    (Operation.not_replaces_of_fetchesFrom hnext)
  exact ⟨hout, hconnection, hlast⟩

theorem end_of_result_is_final_lost :
    let d : Desk Script := (performAll
      { connection := (Connection.connect { autocommit := true } Script.countingToTwo).2 }
      [.openCursor "a", .openCursor "b"]).2
    let asked := d.perform (.executeOn "a" "SELECT n FROM t" [])
    let met := (asked.2.performAll [.fetch "a"]).2.perform (.fetchMany "a" 2)
    let after := (met.2.performAll [.fetch "a", .executeOn "b" "SELECT 1" []]).2
    (asked.1 = .done ∧ Operation.ended (.fetchMany "a" 2) met.1 = true ∧
        after.connection.status = .broken) ∧
      ∃ k, met.2.cursor? "a" = some k ∧ k.state = .exhausted ∧ after.cursor? "a" = some k ∧
        (after.perform (.fetchAll "a")).1 = .failed .connectionClosed ∧
        (after.perform (.fetchAll "a")).2.connection = after.connection := by
  intro d asked met after
  have final := end_of_result_is_final d "a" "SELECT n FROM t" [] [.fetch "a"]
    [.fetch "a", .executeOn "b" "SELECT 1" []] (.fetchMany "a" 2) (by decide +kernel)
    (by decide +kernel) rfl (by decide +kernel)
  obtain ⟨k, hk, exhausted, hafter, next⟩ := final
  obtain ⟨refused, still, -⟩ := next (.fetchAll "a") (.failed .connectionClosed) rfl
    (by decide +kernel)
  exact ⟨by decide +kernel, k, hk, exhausted, hafter, refused, still⟩

end Desk

end SqlWire
