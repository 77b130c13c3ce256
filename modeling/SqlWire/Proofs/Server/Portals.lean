import SqlWire.Proofs.Server.Placeholders
import SqlWire.Proofs.Server.Synchrony
import SqlWire.Proofs.Sql.Readings

/-!
# A text as a query and as a bound statement

A query is cut into its statements, and each is run by itself; a bound text is run as a whole. A
text without a statement is found out by the one and run by the other, unless it is without a
comment too, and of a text with one statement the two take the same view unless it is misread.
-/

namespace SqlWire

namespace Session

open Sql

variable {t : Session}

def CalledEmpty (t s : Session) : Prop :=
  ∃ new, s.sent = new ++ t.sent ∧ .message .emptyQueryResponse ∈ new

def Spoken (t s : Session) : Prop :=
  ∃ new, s.sent = new ++ t.sent ∧ .message .emptyQueryResponse ∉ new

theorem Spoken.refl (s : Session) : Spoken s s := ⟨[], rfl, List.not_mem_nil⟩

theorem Spoken.said {s : Session} {m : BackendMessage} (hm : m ≠ .emptyQueryResponse)
    (h : Spoken t s) : Spoken t { s with sent := .message m :: s.sent } := by
  obtain ⟨new, hs, hn⟩ := h
  refine ⟨.message m :: new, congrArg (Outgoing.message m :: ·) hs, fun he => ?_⟩
  rcases List.mem_cons.1 he with he | he
  · cases he
    exact hm rfl
  · exact hn he

theorem Spoken.not_calledEmpty {s : Session} (h : Spoken t s) : ¬CalledEmpty t s := by
  rintro ⟨new, hs, he⟩
  obtain ⟨new', hs', hn⟩ := h
  rw [hs] at hs'
  exact hn (List.append_cancel_right hs' ▸ he)

theorem ne_empty_of_ofStatement {m : BackendMessage} (h : m.ofStatement = true) :
    m ≠ .emptyQueryResponse := by
  rintro rfl
  cases h

theorem spoken_streamSafe (sql : String) : StreamSafe sql (Spoken t) where
  wrote _ h := h
  said _ hm h := h.said (ne_empty_of_ofStatement hm)
  asked _ _ _ h := h

theorem spoken_controlSafe : ControlSafe (Spoken t) where
  wrote _ h := h
  said _ hm h := h.said (ne_empty_of_ofStatement hm)
  executed _ h := h
  turned _ _ h := h

/-- Whatever is run, nothing is called empty. -/
theorem runStatement_spoken (sql : String) (params : List Value) (describing : Describing) :
    Working (Spoken t) (runStatement sql params describing) :=
  runStatement_keeps (spoken_streamSafe sql) spoken_controlSafe params describing

theorem send_spoken {m : BackendMessage} (hm : m ≠ .emptyQueryResponse) :
    Ensures (Spoken t) (send m) (fun _ => Spoken t) (fun _ => Spoken t) :=
  send_acts m (fun _ _ h => h) fun _ h => h.said hm

theorem runQuery_spoken (statements : List String) :
    Ensures (Spoken t) (runQuery statements) (fun _ => Spoken t) (fun _ => Spoken t) := by
  induction statements with
  | nil => exact Ensures.pure fun _ h => h
  | cons sql rest ih =>
      refine (runStatement_spoken sql [] .simple).run.bind fun result => ?_
      cases result with
      | ok u => exact ih
      | error report => exact send_spoken (by simp)

theorem extendedError_spoken (report : Diagnostic) :
    Ensures (Spoken t) (extendedError report) (fun _ => Spoken t) (fun _ => Spoken t) := by
  unfold extendedError
  exact Ensures.bind (Q := fun _ => Spoken t) (Ensures.modify fun _ h => h) fun _ =>
    send_spoken (by simp)

def runPortal (p : Portal) (sql : String) : Serving Unit := do
  match ← (runStatement sql p.params (if p.described then .portal else .silent)).run with
  | .ok () => return ()
  | .error report => extendedError report

theorem runPortal_spoken (p : Portal) (sql : String) :
    Ensures (Spoken t) (runPortal p sql) (fun _ => Spoken t) (fun _ => Spoken t) := by
  refine (runStatement_spoken sql _ _).run.bind fun result => ?_
  cases result with
  | ok u => exact Ensures.pure fun _ h => h
  | error report => exact extendedError_spoken report

/-- What becomes of a bound text: it is empty, or more than one statement, or run as it is but for
its placeholders. -/
theorem executePortal_eq {p : Portal} {s : Session} (hp : s.portal = some p) :
    executePortal s =
      (if isEmptyQuery p.sql then send .emptyQueryResponse
        else if 1 < (statements p.sql).length then
          extendedError (.error SqlState.syntaxError
            "cannot insert multiple commands into a prepared statement")
        else runPortal p (numberedPlaceholders p.sql)) { s with portal := none } := by
  unfold executePortal
  rw [bind_apply, get_apply]
  dsimp only
  rw [hp]
  rfl

/-- While the channel takes a write, word that there is nothing to run gets out. -/
theorem send_calledEmpty {s : Session} (hw : s.writesLeft ≠ some 0) (portal : Option Portal) :
    CalledEmpty s (send .emptyQueryResponse { s with portal }).2 := by
  have encoded : ∃ bytes, BackendMessage.emptyQueryResponse.encode = .ok bytes := ⟨_, rfl⟩
  obtain ⟨bytes, encoded⟩ := encoded
  rw [send_writes (s := { s with portal }) encoded hw]
  exact ⟨[.message .emptyQueryResponse], rfl, List.mem_singleton.2 rfl⟩

theorem simpleQuery_calledEmpty (sql : String) {s : Session} (hw : s.writesLeft ≠ some 0) :
    CalledEmpty s (simpleQuery sql s).2 ↔ statements sql = [] := by
  unfold simpleQuery
  rw [← List.isEmpty_iff]
  split
  · next h => exact iff_of_true (send_calledEmpty hw s.portal) h
  · next h => exact iff_of_false ((runQuery_spoken _).state (.refl s)).not_calledEmpty h

theorem executePortal_calledEmpty {p : Portal} {s : Session} (hp : s.portal = some p)
    (hw : s.writesLeft ≠ some 0) :
    CalledEmpty s (executePortal s).2 ↔ isEmptyQuery p.sql = true := by
  have begun : Spoken s { s with portal := none } := Spoken.refl s
  rw [executePortal_eq hp]
  split
  · next h => exact iff_of_true (send_calledEmpty hw none) h
  · next h =>
      refine iff_of_false ?_ h
      split
      · exact ((extendedError_spoken _).state begun).not_calledEmpty
      · exact ((runPortal_spoken p _).state begun).not_calledEmpty

/-- Whether a text is a query or is bound, it is called empty if it has nothing but white space and
semicolons. If it has comments besides, it is called empty as a query alone, and its comments are
run as a bound statement. A text with one statement is run as the statement alone or as a whole,
and the two are of one kind exactly if the statement is not misread. -/
theorem query_and_portal_agree_iff {p : Portal} {s : Session} (hp : s.portal = some p)
    (hw : s.writesLeft ≠ some 0) :
    ((CalledEmpty s (executePortal s).2 ↔ CalledEmpty s (simpleQuery p.sql s).2) ↔
        statements p.sql ≠ [] ∨ ∀ c ∈ layout p.sql.toList, c.2 ≠ .comment) ∧
      ∀ statement, statements p.sql = [statement] →
        simpleQuery p.sql s = runQuery [statement] s ∧
        executePortal s = runPortal p (numberedPlaceholders p.sql) { s with portal := none } ∧
        (SqlKind.ofText (numberedPlaceholders p.sql) = SqlKind.ofText statement ↔
          ¬Misread p.sql statement) := by
  refine ⟨?_, fun statement h => ⟨?_, ?_, ?_⟩⟩
  · rw [executePortal_calledEmpty hp hw, simpleQuery_calledEmpty p.sql hw, isEmptyQuery_iff]
    by_cases h : statements p.sql = [] <;> simp [h]
  · unfold simpleQuery
    rw [h]
    rfl
  · have some_text : isEmptyQuery p.sql ≠ true := by
      rw [ne_eq, isEmptyQuery_iff, h]
      simp
    rw [executePortal_eq hp, if_neg some_text, h, if_neg (by simp)]
  · rw [SqlKind.ofText_numbered]
    exact ofText_statement h

theorem query_and_portal_agree_iff_commit :
    let p : Portal := ⟨";COMMIT", [], false⟩
    let s : Session := { opened { databasePath := "" } 1 2 { answers := [] } with portal := some p }
    s.portal = some p ∧ s.writesLeft ≠ some 0 ∧ statements p.sql = ["COMMIT"] ∧
      Misread p.sql "COMMIT" ∧
      SqlKind.ofText (numberedPlaceholders p.sql) ≠ SqlKind.ofText "COMMIT" := by
  intro p s
  have one : statements p.sql = ["COMMIT"] := by decide +kernel
  have misread : Misread p.sql "COMMIT" :=
    @Misread.behind _ _ [] "COMMIT".toList (by decide) rfl (by decide +kernel)
  have agree := (query_and_portal_agree_iff (s := s) (p := p) rfl (by decide)).2 "COMMIT" one
  exact ⟨rfl, by decide, one, misread, fun same => agree.2.2.1 same misread⟩

/-- As a query, a comment is called empty, and a semicolon in front of a commit does not matter.
As bound statements, the one is prepared by the engine, and the other is no commit. -/
theorem bound_comment_is_run :
    let asked (text : String) : List FrontendMessage :=
      [.parse "" text [], .bind "" "" [], .execute "" 0, .sync]
    let s : Session :=
      { opened { databasePath := "" } 1 2 { answers := [] } with stage := .serving }
    let answer (ms : List FrontendMessage) :=
      (ms.foldl (fun s m => s.takeIn (.ok m)) s).sent
    .message .emptyQueryResponse ∈ answer [.query "-- hi"] ∧
      .message .emptyQueryResponse ∉ answer (asked "-- hi") ∧
      statements ";COMMIT" = ["COMMIT"] ∧ SqlKind.ofText "COMMIT" = .commit ∧
      SqlKind.ofText (numberedPlaceholders ";COMMIT") = .other := by
  intro asked s answer
  decide +kernel

end Session

end SqlWire
