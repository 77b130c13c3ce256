import SqlWire.Proofs.Server.Comments

/-!
# Rolling back to a savepoint

A rollback to a savepoint is told from the rollback of a transaction by its second word alone.
Whoever writes `WORK` or `TRANSACTION` in front of `TO`, as the grammar allows, has rolled back
the whole transaction, and the engine is never asked for the savepoint.
-/

namespace SqlWire

namespace SqlKind

/-- The words of a statement that rolls back to a savepoint, each in any letter case. A word may
stand `between` the verb and `TO`. -/
inductive RollbackTo : (between : Option String) → (words : List String) → Prop
  | mk {verb toWord : String} {between savepoint : Option String} {name : List String}
      (verbs : Text.upper verb ∈ ["ROLLBACK", "ABORT"])
      (betweens : ∀ word ∈ between, Text.upper word ∈ ["WORK", "TRANSACTION"])
      (to_word : Text.upper toWord = "TO")
      (savepoints : ∀ word ∈ savepoint, Text.upper word = "SAVEPOINT")
      (named : name ≠ []) :
      RollbackTo between (verb :: (between.toList ++ toWord :: (savepoint.toList ++ name)))

/-- A text that rolls back to a savepoint, with any white space between and around its words. -/
def RollsBackTo (between : Option String) (sql : String) : Prop :=
  ∃ words, RollbackTo between words ∧ Text.Spaced (words.map String.toList) sql.toList

/-- A word that has no semicolon in upper case has none that its keyword could lack. -/
theorem keyword_eq_upper {word : String} (h : ';' ∉ (Text.upper word).toList) :
    keyword word = Text.upper word := by
  have plain : word.toList.reverse.dropWhile (· == ';') = word.toList.reverse := by
    rw [List.dropWhile_eq_self_iff]
    intro hl last
    have there : ';' ∈ word.toList := by
      rw [← List.mem_reverse, ← beq_iff_eq.1 last]
      exact List.getElem_mem hl
    rw [← String.ofList_toList (s := word)] at h
    exact h (Text.mem_upper there)
  rw [keyword, plain, List.reverse_reverse, String.ofList_toList]

/-- A rollback to a savepoint is known for one only if nothing stands in front of `TO`. -/
theorem ofText_rollsBackTo {between : Option String} {sql : String} (h : RollsBackTo between sql) :
    ofText sql = if between.isSome then .rollback else .other := by
  obtain ⟨words, rollback, spaced⟩ := h
  have cut : Text.words sql = words := by
    rw [Text.words, Text.spaced_iff.1 spaced, List.map_map]
    exact List.map_id'' (fun word => String.ofList_toList) words
  rw [ofText, cut]
  cases rollback with
  | @mk verb toWord between savepoint name verbs betweens to_word savepoints named =>
      have known : ∀ k ∈ ["ROLLBACK", "ABORT"], ';' ∉ k.toList := by decide
      rw [← keyword_eq_upper (known _ verbs)] at verbs
      cases between with
      | none => exact (ofWords_rollback verbs _ _).trans (if_pos to_word)
      | some word =>
          have apart : ∀ k ∈ ["WORK", "TRANSACTION"], k ≠ "TO" := by decide
          exact (ofWords_rollback verbs _ _).trans (if_neg (apart _ (betweens word rfl)))

end SqlKind

/-! ## What the engine executes -/

def EngineCall.executed? : EngineCall → Option String
  | .execute sql => some sql
  | _ => none

def Engine.executed (e : Engine) : List String :=
  e.calls.filterMap EngineCall.executed?

theorem Engine.executed_make {call : EngineCall} (hc : ∀ sql, call ≠ .execute sql) (e : Engine) :
    (e.make call).executed = e.executed := by
  unfold executed
  rw [make_calls]
  cases call with
  | execute sql => exact absurd rfl (hc sql)
  | _ => rfl

theorem Engine.executed_leave (word : String) (e : Engine) :
    word :: e.executed <:+ (e.leave word).2.executed := by
  have made (sql : String) (e : Engine) : (e.execute sql).2.executed = sql :: e.executed := by
    unfold executed
    rw [execute_calls]
    rfl
  unfold leave
  dsimp only
  rw [← made word e]
  split
  · rw [made "ROLLBACK"]
    exact List.suffix_cons _ _
  · exact List.suffix_rfl

namespace Session

variable {t : Session}

/-- On the way from `t` nothing was executed, and the transaction is as open as it was. -/
structure Untouched (t s : Session) : Prop where
  executed : s.engine.executed = t.engine.executed
  inside : s.inTransaction = t.inTransaction

theorem untouched_safe (sql : String) : StreamSafe sql (Untouched t) where
  wrote _ h := ⟨h.executed, h.inside⟩
  said _ _ h := ⟨h.executed, h.inside⟩
  asked _ hc _ h := ⟨(Engine.executed_make hc _).trans h.executed, h.inside⟩

/-- What is no matter of the transaction leaves the transaction alone, also if it fails. -/
theorem runStatement_untouched {sql : String} (ha : t.aborted = false)
    (hk : (SqlKind.ofText sql).isTransactionControl = false) (params : List Value)
    (describing : Describing) :
    Running.Ensures (· = t) (runStatement sql params describing) (fun _ => Untouched t)
      (Untouched t) (Untouched t) := by
  have streamed := (untouched_safe (t := t) sql).streamStatement params describing
  refine runStatement_streamed ha hk (streamed.mono ?_ (fun _ _ h => h) (fun _ h => h)
    fun _ h => h) fun _ h => ⟨h.executed, h.inside⟩
  rintro _ rfl
  exact ⟨rfl, rfl⟩

/-- The transaction is over, and the engine has executed the word that ended it. -/
structure Concluded (word : String) (t s : Session) : Prop where
  executed : word :: t.engine.executed <:+ s.engine.executed
  outside : s.inTransaction = false

theorem runEnd_concluded (hi : t.inTransaction = true) (word : String) :
    Running.Ensures (· = t) (runEnd word) (fun _ => Concluded word t) (Concluded word t)
      (Concluded word t) := by
  unfold runEnd
  refine Running.Ensures.get_bind fun s hs => ?_
  subst hs
  rw [if_pos hi]
  have left : Concluded word s (s.left word) := ⟨Engine.executed_leave word s.engine, rfl⟩
  refine Running.Ensures.bind (Q := fun _ => Concluded word s) (endTransaction_leaves ?_ ?_)
    fun _ => Running.Ensures.surely (send_acts _ (fun _ _ h => ⟨h.executed, h.outside⟩)
      fun _ h => ⟨h.executed, h.outside⟩)
  · rintro _ rfl
    exact left
  · rintro _ rfl
    exact left

theorem runStatement_rolledBack {sql : String} (hi : t.inTransaction = true)
    (ha : t.aborted = false) (hk : SqlKind.ofText sql = .rollback) (params : List Value)
    (describing : Describing) :
    Running.Ensures (· = t) (runStatement sql params describing) (fun _ => Concluded "ROLLBACK" t)
      (Concluded "ROLLBACK" t) (Concluded "ROLLBACK" t) := by
  unfold runStatement
  refine Running.Ensures.get_bind fun s hs => ?_
  subst hs
  rw [if_neg (by simp [ha]), hk]
  exact runEnd_concluded hi "ROLLBACK"

/-- A session in a healthy transaction that is asked to roll back to a savepoint stays in it and
prepares the statement for the engine only if `TO` is the second word. With `WORK` or
`TRANSACTION` in front of it the statement is of the kind that ends a transaction: the engine
executes `ROLLBACK`, is asked for no savepoint, and the session is outside, whatever answers the
engine gives and wherever the channel fails. -/
theorem savepoint_rollback_ends {between : Option String} {sql : String}
    (h : SqlKind.RollsBackTo between sql) (params : List Value) (describing : Describing)
    {s : Session} (hi : s.inTransaction = true) (ha : s.aborted = false) :
    let s' := (runStatement sql params describing s).2
    if between.isSome then
      SqlKind.ofText sql = .rollback ∧ Concluded "ROLLBACK" s s' ∧ Unprepared s s'
    else SqlKind.ofText sql = .other ∧ Untouched s s' ∧ Prepared sql s s' := by
  intro s'
  have kind := SqlKind.ofText_rollsBackTo h
  split
  · next hb =>
      rw [if_pos hb] at kind
      have concluded := runStatement_rolledBack hi ha kind params describing
      have control : s.aborted = true ∨ (SqlKind.ofText sql).isTransactionControl = true := by
        rw [kind]
        exact .inr rfl
      have unprepared := runStatement_unprepared control params describing
      exact ⟨kind, concluded.state rfl, unprepared.state rfl⟩
  · next hb =>
      rw [if_neg hb] at kind
      have other : (SqlKind.ofText sql).isTransactionControl = false := by
        rw [kind]
        rfl
      have untouched := runStatement_untouched ha other params describing
      have prepared := runStatement_prepared ha other params describing
      exact ⟨kind, untouched.state rfl, prepared.state rfl⟩

def transacting : Session :=
  [.startup Protocol.version3 [("user", "u")], .query "BEGIN"].foldl (fun s m => s.takeIn (.ok m))
    (opened { databasePath := "" } 1 2 { answers := [] })

theorem savepoint_rollback_ends_abort :
    let text := "abort\n\tWork to  a"
    SqlKind.RollsBackTo (some "Work") text ∧ transacting.inTransaction = true ∧
      transacting.aborted = false ∧ SqlKind.ofText text = .rollback ∧
      Concluded "ROLLBACK" transacting (runStatement text [] .simple transacting).2 ∧
      Unprepared transacting (runStatement text [] .simple transacting).2 := by
  intro text
  have rollback : SqlKind.RollsBackTo (some "Work") text :=
    ⟨_, @SqlKind.RollbackTo.mk "abort" "to" (some "Work") none ["a"] (by decide) (by decide)
      (by decide) (by decide) (by decide), Text.spaced_iff.2 (by decide)⟩
  have inside : transacting.inTransaction = true := by decide +kernel
  have healthy : transacting.aborted = false := by decide +kernel
  exact ⟨rollback, inside, healthy, savepoint_rollback_ends rollback [] .simple inside healthy⟩

/-- A transaction of which a savepoint was to be kept is rolled back as a whole. -/
theorem transaction_lost_to_savepoint :
    let text := "ROLLBACK TRANSACTION TO SAVEPOINT a"
    let s := transacting.takeIn (.ok (.query text))
    SqlKind.RollsBackTo (some "TRANSACTION") text ∧ SqlKind.ofText text = .rollback ∧
      transacting.engine.executed = ["BEGIN"] ∧ transacting.inTransaction = true ∧
      s.engine.executed = ["ROLLBACK", "BEGIN"] ∧ s.inTransaction = false := by
  intro text s
  refine ⟨⟨_, @SqlKind.RollbackTo.mk "ROLLBACK" "TO" (some "TRANSACTION") (some "SAVEPOINT") ["a"]
    (by decide) (by decide) (by decide) (by decide) (by decide), Text.spaced_iff.2 (by decide)⟩, ?_⟩
  decide +kernel

end Session

end SqlWire
