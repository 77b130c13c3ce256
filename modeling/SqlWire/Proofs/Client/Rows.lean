import SqlWire.Client.Script
import SqlWire.Proofs.Client.Handing

/-!
# Which rows a cursor hands out

Between two statements of its own, a cursor hands out the rows that follow the description of its
result on the stream, in their order and each of them once, whatever happens to the connection
otherwise. If it learns how the server called the statement, it has handed out all of them.
-/

namespace SqlWire

open Connection

def visitedRows (visits : List Visit) : List Row :=
  visits.filterMap fun
    | .row row => some row
    | _ => none

def Outcome.handed : Outcome → List Row
  | .row (some r) => [r]
  | .rows rs => rs
  | .visits vs => visitedRows vs
  | _ => []

def Operation.rowsFor (operation : Operation) (name : String) (outcome : Outcome) : List Row :=
  if operation.cursor? = some name then outcome.handed else []

def rowsFrom (name : String) (operations : List Operation) (outcomes : List Outcome) : List Row :=
  (operations.zip outcomes).flatMap fun (operation, outcome) => operation.rowsFor name outcome

def Operation.renews (name : String) : Operation → Bool
  | .executeOn cursor .. | .openCursor cursor | .openCursorIn _ cursor => cursor == name
  | _ => false

section

variable {σ : Type} [Channel σ]

/-- How a cursor that holds no result but one hands out rows: `H` is known of the cursor and its
connection, and `R` of the rows that were handed out and of the stream. -/
structure Hands (id : Nat) (H : List Row → Cursor × Connection (Traced σ) → Prop)
    (R : List Row → Bytes → Prop) : Prop where
  fetch : ∀ rows, Ensures (H rows) Cursor.fetch (fun next => H (rows ++ next.toList))
    (fun _ => H rows)
  fetchMany : ∀ rows n, Ensures (H rows) (Cursor.fetchMany n) (fun out => H (rows ++ out))
    (fun _ => H rows)
  close : ∀ {rows k c}, H rows (k, c) → H rows (k.close, c)
  aloof : ∀ {rows k c c'}, H rows (k, c) → Aloof id c c' → H rows (k, c')
  kept : ∀ {rows s}, H rows s → R rows s.2.heard
  longer : ∀ {rows heard heard'}, R rows heard → heard <+: heard' → R rows heard'

/-- A cursor has handed out some rows, and no other cursor holds its result. -/
structure Attached (name : String) (id : Nat)
    (H : List Row → Cursor × Connection (Traced σ) → Prop) (R : List Row → Bytes → Prop)
    (rows : List Row) (d : Desk (Traced σ)) : Prop where
  known : id < d.connection.nextResult
  others : ∀ other k, other ≠ name → d.cursor? other = some k → k.state ≠ .pending id
  own : ∀ k, d.cursor? name = some k → H rows (k, d.connection)
  kept : R rows d.connection.heard

variable {name : String} {id : Nat} {H : List Row → Cursor × Connection (Traced σ) → Prop}
  {R : List Row → Bytes → Prop} {rows : List Row} {d : Desk (Traced σ)}

theorem Hands.fetchAll (hH : Hands id H R) (rows : List Row) :
    Ensures (H rows) Cursor.fetchAll (fun out => H (rows ++ out)) (fun _ => H rows) :=
  Ensures.get_bind fun _ hs => Ensures.of_eq hs (hH.fetchMany rows _)

@[simp] theorem done_handed (rows : List Row) : rows ++ Outcome.done.handed = rows :=
  List.append_nil rows

@[simp] theorem absent_handed (rows : List Row) : rows ++ Outcome.absent.handed = rows :=
  List.append_nil rows

@[simp] theorem failed_handed (rows : List Row) (e : ClientError) :
    rows ++ (Outcome.failed e).handed = rows :=
  List.append_nil rows

@[simp] theorem flag_handed (rows : List Row) (b : Bool) : rows ++ (Outcome.flag b).handed = rows :=
  List.append_nil rows

theorem visitedRows_append (visits more : List Visit) :
    visitedRows (visits ++ more) = visitedRows visits ++ visitedRows more :=
  List.filterMap_append

theorem visitedRows_done (n : Nat) : visitedRows (List.replicate n .done) = [] := by
  induction n with
  | zero => rfl
  | succ n ih => exact ih

theorem Hands.visitOnto (hH : Hands id H R) (visited : List Visit) (n : Nat)
    (s : Cursor × Connection (Traced σ)) (hs : H (rows ++ visitedRows visited.reverse) s) :
    H (rows ++ visitedRows (Cursor.visitOnto visited n s).1) (Cursor.visitOnto visited n s).2 := by
  induction n generalizing visited s with
  | zero => exact hs
  | succ n ih =>
      have hf := (hH.fetch _).run s hs
      unfold Cursor.visitOnto
      rcases hr : Cursor.fetch s with ⟨e | _ | row, s'⟩
      · rw [hr] at hf
        have hlast : visitedRows (visited.reverse ++ .failed e :: List.replicate n .done) =
            visitedRows visited.reverse := by
          rw [visitedRows_append, show visitedRows (.failed e :: List.replicate n .done) = _ from
            visitedRows_done n, List.append_nil]
        dsimp only
        rw [hlast]
        exact hf
      · rw [hr] at hf
        have hf : H (rows ++ visitedRows visited.reverse ++ []) s' := hf
        rw [List.append_nil] at hf
        dsimp only
        rw [visitedRows_append, visitedRows_done, List.append_nil]
        exact hf
      · rw [hr] at hf
        refine ih (.row row :: visited) s' ?_
        rw [List.reverse_cons, visitedRows_append, ← List.append_assoc]
        exact hf

theorem Attached.runCursor (hH : Hands id H R) (h : Attached name id H R rows d) {α : Type}
    {action : CursorAction (Traced σ) α} {outcome : α → Outcome}
    (ha : Ensures (H rows) action (fun a => H (rows ++ (outcome a).handed)) (fun _ => H rows)) :
    (∀ k, (d.runCursor name action outcome).2.cursor? name = some k →
      H (rows ++ (d.runCursor name action outcome).1.handed)
        (k, (d.runCursor name action outcome).2.connection)) ∧
      R (rows ++ (d.runCursor name action outcome).1.handed)
        (d.runCursor name action outcome).2.connection.heard := by
  cases hk : d.cursor? name with
  | none =>
      unfold Desk.runCursor
      rw [hk]
      refine ⟨fun k hn => absurd (hk.symm.trans hn) (by simp), ?_⟩
      rw [absent_handed]
      exact h.kept
  | some k =>
      have hr := ha.run (k, d.connection) (h.own k hk)
      unfold Desk.runCursor
      rw [hk]
      dsimp only
      rcases he : action (k, d.connection) with ⟨e | a, k', c⟩
      · rw [he] at hr
        refine ⟨fun k hn => ?_, ?_⟩
        · rw [Desk.cursor_putCursor, if_pos rfl] at hn
          cases hn
          rw [failed_handed]
          exact hr
        · rw [failed_handed]
          exact hH.kept hr
      · rw [he] at hr
        refine ⟨fun k hn => ?_, hH.kept hr⟩
        rw [Desk.cursor_putCursor, if_pos rfl] at hn
        cases hn
        exact hr

theorem Attached.perform_other (hH : Hands id H R) (h : Attached name id H R rows d)
    {operation : Operation} (hop : operation.cursor? ≠ some name) :
    (∀ k, (d.perform operation).2.cursor? name = some k →
      H rows (k, (d.perform operation).2.connection)) ∧
      R rows (d.perform operation).2.connection.heard := by
  have haloof : Aloof id d.connection (d.perform operation).2.connection := by
    refine Desk.perform_keeps (stable_aloof h.known).invariant d operation
      (fun _ _ => True.intro) ?_ (Aloof.refl id _)
    intro other k id' hother hk hs h
    subst h
    refine h.others other k ?_ hk hs
    intro h
    subst h
    exact hop hother
  refine ⟨fun k hk => ?_, hH.longer h.kept haloof.heard⟩
  rw [Desk.perform_other hop] at hk
  exact hH.aloof (h.own k hk) haloof

theorem Attached.perform_own (hH : Hands id H R) (h : Attached name id H R rows d)
    {operation : Operation} (hop : operation.cursor? = some name)
    (hn : operation.renews name = false) :
    (∀ k, (d.perform operation).2.cursor? name = some k →
      H (rows ++ (d.perform operation).1.handed) (k, (d.perform operation).2.connection)) ∧
      R (rows ++ (d.perform operation).1.handed) (d.perform operation).2.connection.heard := by
  cases operation with
  | executeOn | openCursor | openCursorIn =>
      cases hop
      simp [Operation.renews] at hn
  | fetch cursor =>
      cases hop
      rw [Desk.perform]
      refine h.runCursor hH ((hH.fetch rows).mono (fun _ h => h) (fun next _ h => ?_)
        fun _ _ h => h)
      cases next with
      | none => exact h
      | some row => exact h
  | fetchMany cursor n =>
      cases hop
      rw [Desk.perform]
      exact h.runCursor hH (hH.fetchMany rows n)
  | fetchAll cursor =>
      cases hop
      rw [Desk.perform]
      exact h.runCursor hH (hH.fetchAll rows)
  | visit cursor n =>
      cases hop
      rw [Desk.perform]
      refine h.runCursor hH ⟨fun s hs => ?_⟩
      rw [← List.append_nil rows] at hs
      exact hH.visitOnto [] n s hs
  | inspect cursor =>
      have hnone : (d.perform (.inspect cursor)).1.handed = [] := by
        rw [Desk.perform]
        dsimp only
        split <;> rfl
      rw [hnone, List.append_nil]
      exact ⟨h.own, h.kept⟩
  | closeCursor cursor =>
      cases hop
      rw [Desk.perform]
      split
      · rw [absent_handed]
        exact ⟨h.own, h.kept⟩
      · next k hk =>
          rw [done_handed]
          refine ⟨fun k' hk' => ?_, h.kept⟩
          rw [Desk.cursor_putCursor, if_pos rfl] at hk'
          cases hk'
          exact hH.close (h.own k hk)
  | dropCursor cursor =>
      cases hop
      rw [Desk.perform, flag_handed]
      refine ⟨fun k hk => ?_, h.kept⟩
      have hnone := (lookup_filter_ne name name d.cursors).trans (if_pos rfl)
      exact absurd (hnone.symm.trans hk) (by simp)
  | _ => cases hop

theorem Attached.perform (hH : Hands id H R) (h : Attached name id H R rows d)
    {operation : Operation} (hn : operation.renews name = false) :
    Attached name id H R (rows ++ operation.rowsFor name (d.perform operation).1)
      (d.perform operation).2 := by
  have hown : (∀ k, (d.perform operation).2.cursor? name = some k →
      H (rows ++ operation.rowsFor name (d.perform operation).1)
        (k, (d.perform operation).2.connection)) ∧
      R (rows ++ operation.rowsFor name (d.perform operation).1)
        (d.perform operation).2.connection.heard := by
    unfold Operation.rowsFor
    by_cases hop : operation.cursor? = some name
    · rw [if_pos hop]
      exact h.perform_own hH hop hn
    · rw [if_neg hop, List.append_nil]
      exact h.perform_other hH hop
  refine ⟨Nat.lt_of_lt_of_le h.known (d.perform_nextResult operation), ?_, hown.1, hown.2⟩
  intro other k hother hk hs
  rcases Desk.perform_holds hk hs with ⟨k', hk', hs'⟩ | ⟨hle, -⟩
  · exact h.others other k' hother hk' hs'
  · exact absurd h.known (by omega)

theorem Attached.performAll (hH : Hands id H R) (h : Attached name id H R rows d)
    (operations : List Operation) (hn : ∀ operation ∈ operations, operation.renews name = false) :
    Attached name id H R (rows ++ rowsFrom name operations (d.performAll operations).1)
      (d.performAll operations).2 := by
  induction operations generalizing rows d with
  | nil =>
      rw [show rowsFrom name [] _ = [] from rfl, List.append_nil]
      exact h
  | cons operation operations ih =>
      have hone := h.perform hH (hn operation (by simp))
      have hrest := ih hone fun o ho => hn o (by simp [ho])
      rw [List.append_assoc] at hrest
      exact hrest

theorem hands_result (start : Bytes) (id : Nat) (columns : List Column) :
    Hands (σ := σ) id (Cursor.Handed start id columns) (RowsOf start columns none) where
  fetch _ := Cursor.fetch_hands
  fetchMany _ n := Cursor.fetchMany_hands n
  close h := Cursor.handed_close h
  aloof h ha := Cursor.handed_aloof h ha
  kept h := h.rowsOf.fewer (List.prefix_refl _)
  longer h hp := h.longer hp

def Bare (rows : List Row) (s : Cursor × Connection (Traced σ)) : Prop :=
  rows = [] ∧ ∀ id, s.1.state ≠ .pending id

theorem fetch_bare :
    Ensures (Bare rows) (Cursor.fetch : CursorAction (Traced σ) (Option Row))
      (fun next s => next = none ∧ Bare rows s) (fun _ => Bare rows) := by
  constructor
  intro s h
  obtain ⟨k, c⟩ := s
  unfold Cursor.fetch
  dsimp only
  cases hs : k.state with
  | closed | idle => exact h
  | exhausted =>
      dsimp only
      split
      · exact ⟨rfl, h⟩
      · exact h
  | pending id => exact absurd hs (h.2 id)

theorem hands_nothing : Hands (σ := σ) 0 Bare (fun rows _ => rows = []) where
  fetch rows := by
    refine fetch_bare.mono (fun _ h => h) ?_ fun _ _ h => h
    intro _ s hs
    obtain ⟨rfl, h⟩ := hs
    exact ⟨by rw [h.1]; rfl, h.2⟩
  fetchMany rows n := by
    unfold Cursor.fetchMany
    cases n with
    | zero => exact Ensures.pure fun s h => ⟨by rw [h.1]; rfl, h.2⟩
    | succ n =>
        refine fetch_bare.bind fun next => Ensures.of_each ?_
        intro s hs
        obtain ⟨rfl, h⟩ := hs
        exact Ensures.of_eq h (Ensures.pure fun s h => ⟨by rw [h.1]; rfl, h.2⟩)
  close {rows k c} h := by
    refine ⟨h.1, fun id hs => ?_⟩
    unfold Cursor.close at hs
    split at hs
    · exact h.2 id hs
    · cases hs
  aloof h _ := h
  kept h := h.1
  longer h _ := h

/-! ## From a statement on -/

omit [Channel σ] in
theorem executeOn_done {σ : Type} [Channel σ] {d : Desk σ} {sql : String} {params : List Value}
    (h : (d.perform (.executeOn name sql params)).1 = .done) :
    ∃ k k' c', d.cursor? name = some k ∧
      Cursor.execute sql params (k, d.connection) = (.ok (), k', c') ∧
      (d.perform (.executeOn name sql params)).2 =
        { d with connection := c' }.putCursor name k' := by
  rw [Desk.perform] at h ⊢
  unfold Desk.runCursor at h ⊢
  cases hk : d.cursor? name with
  | none =>
      rw [hk] at h
      cases h
  | some k =>
      rw [hk] at h
      dsimp only at h ⊢
      rcases hr : Cursor.execute sql params (k, d.connection) with ⟨e | u, k', c'⟩
      · rw [hr] at h
        cases h
      · exact ⟨k, k', c', rfl, hr, rfl⟩

structure Known (d : Desk (Traced σ)) : Prop where
  positive : 1 ≤ d.connection.nextResult
  held : ∀ name k id, d.cursor? name = some k → k.state = .pending id →
    1 ≤ id ∧ id < d.connection.nextResult

theorem Known.perform (h : Known d) (operation : Operation) : Known (d.perform operation).2 := by
  have hle := d.perform_nextResult operation
  refine ⟨Nat.le_trans h.positive hle, fun name k id hk hs => ?_⟩
  rcases Desk.perform_holds hk hs with ⟨k', hk', hs'⟩ | ⟨hn, hlt⟩
  · obtain ⟨hpos, hlt⟩ := h.held name k' id hk' hs'
    exact ⟨hpos, Nat.lt_of_lt_of_le hlt hle⟩
  · exact ⟨Nat.le_trans h.positive hn, hlt⟩

theorem Known.performAll (h : Known d) (operations : List Operation) :
    Known (d.performAll operations).2 := by
  induction operations generalizing d with
  | nil => exact h
  | cons operation operations ih => exact ih (h.perform operation)

theorem known_connect (options : ConnectOptions) (channel : Traced σ) :
    Known { connection := (connect options channel).2 } :=
  ⟨(stable_nextResult 1).connect_keeps options channel (Nat.le_refl 1), fun _ _ _ hk => by cases hk⟩

theorem spelled_connect (options : ConnectOptions) (channel : σ) (operations : List Operation) :
    Spelled (Desk.performAll { connection := (connect options (Traced.mk channel [])).2 }
      operations).2.connection := by
  refine Desk.performAll_keeps stable_spelled.invariant (fun _ => True.intro) operations _
    (fun _ _ => True.intro) ?_
  exact stable_spelled.connect_keeps options _ fun _ => ⟨[], [], .nil, rfl⟩

theorem attached_rows (name : String) {k k' : Cursor} {c' : Connection (Traced σ)} {sql : String}
    {params : List Value} {columns : List Column} (hknown : Known d)
    (hspelled : Spelled d.connection)
    (he : Cursor.execute sql params (k, d.connection) = (.ok (), k', c'))
    (hd : k'.description = some columns) :
    ∃ start before fields id, columns = fields.map Column.ofField ∧
      Spells start (before ++ [.rowDescription fields]) ∧ c'.heard = start ++ c'.buffer ∧
      Attached name id (Cursor.Handed start id columns) (RowsOf start columns none) []
        ({ d with connection := c' }.putCursor name k') := by
  obtain ⟨submitted, ho, hb⟩ := (Cursor.execute_opens stable_spelled sql params).ok hspelled he
  have hholds := (Cursor.execute_holds d.connection.nextResult sql params).ok (Nat.le_refl _) he
  dsimp only at ho hb hholds
  cases ho with
  | finished tag => rw [hb] at hd; cases hd
  | @rows c₁ c₂ _ ms fields hu hr hs =>
      rw [hb] at hd hholds
      cases hd
      obtain ⟨hle, hlt⟩ := hholds _ rfl
      obtain ⟨start, before, hstart, hheard⟩ := hu.1.reads hu.2 hr
      have hheard' : c'.heard = start ++ c'.buffer := by
        rw [hs.heard, hs.buffer]
        exact hheard
      have hlive : Cursor.Live start c₂.nextResult (fields.map Column.ofField) [] (k', c') := by
        rw [hb]
        exact ⟨rfl, rfl, hs.status, [], [], .nil, by simpa using hheard', by simp, rfl⟩
      refine ⟨start, before ++ ms, fields, c₂.nextResult, rfl, by simpa using hstart, hheard', hlt,
        ?_, ?_, ?_⟩
      · -- the other cursors hold results that were opened before
        intro other ko hother hko hpending
        rw [Desk.cursor_putCursor, if_neg hother] at hko
        have hlt' := (hknown.held other ko _ hko hpending).2
        omega
      · intro ko hko
        rw [Desk.cursor_putCursor, if_pos rfl] at hko
        cases hko
        exact .inl hlive
      · exact hlive.rowsOf.fewer (List.prefix_refl _)

theorem attached_nothing (name : String) {k k' : Cursor} {c' : Connection (Traced σ)}
    {sql : String} {params : List Value} (hknown : Known d)
    (he : Cursor.execute sql params (k, d.connection) = (.ok (), k', c'))
    (hd : k'.description = none) :
    Attached name 0 Bare (fun rows _ => rows = []) []
      ({ d with connection := c' }.putCursor name k') := by
  obtain ⟨submitted, ho, hb⟩ :=
    (Cursor.execute_opens (stable_nextResult 1) sql params).ok hknown.positive he
  have hpos : 1 ≤ c'.nextResult := (stable_nextResult 1).of_opens ho
  refine ⟨hpos, fun other ko hother hko hpending => ?_, fun ko hko => ?_, rfl⟩
  · rw [Desk.cursor_putCursor, if_neg hother] at hko
    exact absurd (hknown.held other ko 0 hko hpending).1 (by omega)
  · rw [Desk.cursor_putCursor, if_pos rfl] at hko
    cases hko
    refine ⟨rfl, fun id hs => ?_⟩
    dsimp only at hb hs
    rw [hb] at hd hs
    cases submitted with
    | finished tag => cases hs
    | rows id columns => cases hd

/-- The rows that a cursor hands out after it ran a statement are the first of the rows that
follow the description of its result on the stream, up to the end of that result. If the cursor
learned how the server called the statement, they are all of them. -/
theorem cursor_hands_out_result (options : ConnectOptions) (channel : σ)
    (earlier later : List Operation) (name sql : String) (params : List Value) :
    let desk : Desk (Traced σ) :=
      { connection := (connect options (Traced.mk channel [])).2 }
    let asked := (desk.performAll earlier).2.perform (.executeOn name sql params)
    let run := asked.2.performAll later
    let rows := rowsFrom name later run.1
    asked.1 = .done → (∀ operation ∈ later, operation.renews name = false) →
      ∃ k, asked.2.cursor? name = some k ∧ (k.description = none → rows = []) ∧
        ∀ columns, k.description = some columns →
          ∃ start before fields, columns = fields.map Column.ofField ∧
            Spells start (before ++ [.rowDescription fields]) ∧
            asked.2.connection.heard = start ++ asked.2.connection.buffer ∧
            RowsOf start columns ((run.2.cursor? name).bind Cursor.tag) rows
              run.2.connection.heard := by
  intro desk asked run rows hdone hlater
  have hknown := (known_connect options (Traced.mk channel [])).performAll earlier
  have hspelled := spelled_connect options channel earlier
  obtain ⟨k, k', c', -, he, hd⟩ := executeOn_done hdone
  have hasked : asked.2 =
      { (desk.performAll earlier).2 with connection := c' }.putCursor name k' := hd
  have hcursor : asked.2.cursor? name = some k' := by
    rw [hasked, Desk.cursor_putCursor, if_pos rfl]
  refine ⟨k', hcursor, fun hnone => ?_, fun columns hsome => ?_⟩
  · have hattached := attached_nothing name hknown he hnone
    rw [← hasked] at hattached
    exact (hattached.performAll hands_nothing later hlater).kept
  · obtain ⟨start, before, fields, id, hcolumns, hstart, hheard, hattached⟩ :=
      attached_rows name hknown hspelled he hsome
    rw [← hasked] at hattached
    have hend := hattached.performAll (hands_result start id columns) later hlater
    rw [List.nil_append] at hend
    refine ⟨start, before, fields, hcolumns, hstart, ?_, ?_⟩
    · rw [hasked]
      exact hheard
    · cases hlast : run.2.cursor? name with
      | none => exact hend.kept
      | some last => exact (hend.own last hlast).rowsOf

end

def Script.saying (ms : List BackendMessage) : Script where
  deliveries := [.chunk (ms.flatMap fun m => m.encode.toOption.getD [])]

def Script.countingToTwo : Script :=
  saying [
    .readyForQuery .idle,
    .rowDescription [.ofType "n" 1 TypeOid.int8 8],
    .dataRow [some [49]],
    .dataRow [some [50]],
    .commandComplete "SELECT 2",
    .readyForQuery .idle]

theorem cursor_hands_out_two :
    let desk : Desk (Traced Script) :=
      { connection := (connect { autocommit := true } (Traced.mk Script.countingToTwo [])).2 }
    let asked := (desk.performAll [.openCursor "a", .openCursor "b"]).2.perform
      (.executeOn "a" "SELECT n FROM t" [])
    let later : List Operation := [.fetch "a", .fetch "b", .fetchAll "a"]
    let run := asked.2.performAll later
    let rows := rowsFrom "a" later run.1
    (asked.1 = .done ∧ (∀ operation ∈ later, operation.renews "a" = false) ∧ rows.length = 2) ∧
      ∃ k, asked.2.cursor? "a" = some k ∧ (k.description = none → rows = []) ∧
        ∀ columns, k.description = some columns →
          ∃ start before fields, columns = fields.map Column.ofField ∧
            Spells start (before ++ [.rowDescription fields]) ∧
            asked.2.connection.heard = start ++ asked.2.connection.buffer ∧
            RowsOf start columns ((run.2.cursor? "a").bind Cursor.tag) rows
              run.2.connection.heard :=
  ⟨by decide +kernel, cursor_hands_out_result { autocommit := true } Script.countingToTwo
    [.openCursor "a", .openCursor "b"] [.fetch "a", .fetch "b", .fetchAll "a"] "a"
    "SELECT n FROM t" [] (by decide +kernel) (by decide +kernel)⟩

end SqlWire
