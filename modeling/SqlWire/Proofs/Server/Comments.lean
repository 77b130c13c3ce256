import SqlWire.Proofs.Server.Placeholders
import SqlWire.Proofs.Server.Synchrony
import SqlWire.Proofs.Sql.Words

/-!
# Comments in front of a statement

The statements of a query are cut out with the comments in front of them, but the kind of a
statement is told by its first word, and two hyphens are a word that tells nothing. So a session
takes no statement behind a comment for one that begins or ends a transaction, and prepares it.
-/

namespace SqlWire

namespace Sql

/-- The text without the white space and the comments at its front. A comment runs from two hyphens
to the end of the line. -/
def uncommentedFrom (inComment : Bool) : List Char → List Char
  | [] => []
  | c :: rest =>
    if inComment then uncommentedFrom (c != '\n') rest
    else if Text.isBlank c then uncommentedFrom false rest
    else if c = '-' ∧ rest.head? = some '-' then uncommentedFrom true rest
    else c :: rest

def uncommented (sql : String) : String :=
  String.ofList (uncommentedFrom false sql.toList)

def opensWithComment (sql : String) : Bool :=
  ['-', '-'].isPrefixOf (sql.toList.dropWhile Text.isBlank)

theorem uncommentedFrom_blank {text : List Char}
    (h : ['-', '-'].isPrefixOf (text.dropWhile Text.isBlank) = false) :
    uncommentedFrom false text = text.dropWhile Text.isBlank := by
  induction text with
  | nil => rfl
  | cons c rest ih =>
      rw [List.dropWhile_cons] at h ⊢
      unfold uncommentedFrom
      cases hc : Text.isBlank c with
      | true =>
          rw [hc] at h
          simpa using ih h
      | false =>
          rw [hc] at h
          have plain : ¬(c = '-' ∧ rest.head? = some '-') := by
            rintro ⟨rfl, hr⟩
            cases rest with
            | nil => cases hr
            | cons d rest =>
                cases hr
                exact absurd h (by simp [List.isPrefixOf])
          simp [plain]

end Sql

/-- The kind of a statement is what it is without the comments at its front, unless it begins with
one: then nothing is known of it. -/
theorem SqlKind.ofText_uncommented (sql : String) :
    ofText sql = if Sql.opensWithComment sql then .other else ofText (Sql.uncommented sql) := by
  unfold ofText Text.words
  split
  · next h =>
      obtain ⟨rest, hrest⟩ := List.isPrefixOf_iff_prefix.1 h
      have hyphen : Text.isBlank '-' = false := by decide
      rw [← Text.parts_dropWhile, ← hrest, List.cons_append, Text.parts_cons hyphen, List.map_cons]
      exact ofWords_hyphen List.mem_cons_self _
  · next h =>
      rw [Sql.uncommented, String.toList_ofList,
        Sql.uncommentedFrom_blank (Bool.eq_false_iff.2 h), Text.parts_dropWhile]

/-! ## What a session prepares -/

def EngineCall.prepared? : EngineCall → Option String
  | .prepare sql => some sql
  | _ => none

def Engine.prepared (e : Engine) : List String :=
  e.calls.filterMap EngineCall.prepared?

theorem Engine.prepared_execute (sql : String) (e : Engine) :
    (e.execute sql).2.prepared = e.prepared := by
  unfold prepared
  rw [execute_calls]
  rfl

namespace Session

variable {t : Session}

/-- Nothing was prepared on the way from `t`. -/
def Unprepared (t s : Session) : Prop :=
  s.engine.prepared = t.engine.prepared

theorem unprepared_safe : ControlSafe (Unprepared t) where
  wrote _ h := h
  said _ _ h := h
  executed sql h := (Engine.prepared_execute sql _).trans h
  turned _ _ h := h

/-- Once the transaction is aborted, nothing is prepared, nor is what begins or ends one. -/
theorem runStatement_unprepared {sql : String}
    (h : t.aborted = true ∨ (SqlKind.ofText sql).isTransactionControl = true)
    (params : List Value) (describing : Describing) :
    Running.Ensures (· = t) (runStatement sql params describing) (fun _ => Unprepared t)
      (Unprepared t) (Unprepared t) := by
  unfold runStatement
  refine Running.Ensures.get_bind fun s hs => ?_
  subst hs
  refine Ensures.of_eq (P := Unprepared s) rfl ?_
  split
  · exact unprepared_safe.runAborted _
  · next ha =>
      have control := h.resolve_left ha
      cases hk : SqlKind.ofText sql with
      | begin => exact unprepared_safe.runBegin sql
      | commit => exact unprepared_safe.runEnd "COMMIT"
      | rollback => exact unprepared_safe.runEnd "ROLLBACK"
      | _ => simp [hk, SqlKind.isTransactionControl] at control

/-- The statement was prepared on the way from `t`, before anything else was. -/
def Prepared (sql : String) (t s : Session) : Prop :=
  sql :: t.engine.prepared <:+ s.engine.prepared

theorem Acts.prepared {free : String → Prop} {s : Session} (h : Acts free t s) :
    t.engine.prepared <:+ s.engine.prepared := by
  have moves : Moves true t s := h.moves
  exact moves.grows.calls.filterMap _

/-- What is no matter of the transaction is prepared. -/
theorem streamStatement_prepared (ha : t.aborted = false) (sql : String) (params : List Value)
    (describing : Describing) :
    Running.Ensures (· = t) (streamStatement sql params describing) (fun _ => Prepared sql t)
      (Prepared sql t) (Prepared sql t) := by
  let u : Session := { t with engine := (t.engine.prepare sql).2 }
  have first : u.engine.prepared = sql :: t.engine.prepared := by
    unfold Engine.prepared
    rw [Engine.prepare_calls]
    rfl
  have onward (s : Session) (h : Streaming (fun _ => True) u.inTransaction u s) :
      Prepared sql t s := by
    have later := h.acts.prepared
    rwa [first] at later
  have streamed : Running.Ensures (· = t) (streamStatement sql params describing)
      (fun _ => Streaming (fun _ => True) u.inTransaction u)
      (Streaming (fun _ => True) u.inTransaction u)
      (Streaming (fun _ => True) u.inTransaction u) := by
    unfold streamStatement
    refine Running.Ensures.bind (Q := fun _ => Streaming (fun _ => True) u.inTransaction u)
      (Running.Ensures.surely ⟨fun s hs => ?_⟩) fun result => ?_
    · subst hs
      exact ⟨.refl, ha, rfl⟩
    · refine (orReport_keeps result).bind fun prepared => ?_
      cases prepared with
      | returning source =>
          exact (streaming_safe (.inl trivial)).streamRows params describing source
      | changing rows runError =>
          exact (streaming_safe (.inl trivial)).runChange params describing rows runError
  exact streamed.mono (fun _ h => h) (fun _ => onward) onward onward

theorem runStatement_prepared {sql : String} (ha : t.aborted = false)
    (hk : (SqlKind.ofText sql).isTransactionControl = false) (params : List Value)
    (describing : Describing) :
    Running.Ensures (· = t) (runStatement sql params describing) (fun _ => Prepared sql t)
      (Prepared sql t) (Prepared sql t) :=
  runStatement_streamed ha hk (streamStatement_prepared ha sql params describing) fun _ h => h

/-- A comment in front of a statement hides what the statement does to the transaction. The kind
of a statement is what it is without the comments at its front, unless it begins with one: then it
is none of those that are known, and the two are the same only if the statement is none of those
anyway. So a session hands a statement behind a comment to the engine's `prepare` as soon as its
transaction is not aborted, also if the statement begins or ends a transaction. Without a comment
in front, such a statement never gets there. -/
theorem comments_hide_control (sql : String) (params : List Value) (describing : Describing)
    (s : Session) :
    SqlKind.ofText sql = (if Sql.opensWithComment sql then .other
        else SqlKind.ofText (Sql.uncommented sql)) ∧
      (SqlKind.ofText sql = SqlKind.ofText (Sql.uncommented sql) ↔
        Sql.opensWithComment sql = false ∨ SqlKind.ofText (Sql.uncommented sql) = .other) ∧
      if s.aborted = true ∨ Sql.opensWithComment sql = false ∧
          (SqlKind.ofText (Sql.uncommented sql)).isTransactionControl = true
      then Unprepared s (runStatement sql params describing s).2
      else Prepared sql s (runStatement sql params describing s).2 := by
  have kind := SqlKind.ofText_uncommented sql
  refine ⟨kind, ?_, ?_⟩
  · rw [kind]
    generalize SqlKind.ofText (Sql.uncommented sql) = k
    cases Sql.opensWithComment sql with
    | false => exact iff_of_true rfl (.inl rfl)
    | true => exact ⟨fun h => .inr h.symm, fun h => (h.resolve_left nofun).symm⟩
  · split
    · next h =>
        have control : s.aborted = true ∨ (SqlKind.ofText sql).isTransactionControl = true := by
          refine h.imp id fun h => ?_
          rw [kind, h.1, if_neg Bool.false_ne_true]
          exact h.2
        have run := runStatement_unprepared control params describing
        exact run.state rfl
    · next h =>
        rw [not_or] at h
        have other : (SqlKind.ofText sql).isTransactionControl = false := by
          rw [kind]
          split
          · rfl
          · next ho =>
              exact Bool.eq_false_iff.2 fun control => h.2 ⟨Bool.eq_false_iff.2 ho, control⟩
        have run := runStatement_prepared (Bool.eq_false_iff.2 h.1) other params describing
        exact run.state rfl

/-- A commit behind a comment is prepared, and its session takes itself to be in the transaction
still. -/
theorem commit_hidden_by_comment :
    let text := "-- done\nCOMMIT"
    let asked : List FrontendMessage :=
      [.startup Protocol.version3 [("user", "u")], .query "BEGIN", .query text]
    let s := asked.foldl (fun s m => s.takeIn (.ok m))
      (opened { databasePath := "" } 1 2 { answers := [] })
    Sql.statements text = [text] ∧ SqlKind.ofText (Sql.uncommented text) = .commit ∧
      SqlKind.ofText text = .other ∧ s.engine.prepared = [text] ∧ s.inTransaction = true := by
  intro text asked s
  decide +kernel

end Session

end SqlWire
