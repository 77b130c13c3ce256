import SqlWire.Proofs.Server.Answers

/-!
# How a transaction ends

What a session does when its client asks it to commit or to roll back: which calls of the engine
end the transaction, and what the client is told. An aborted transaction is rolled back, whatever
was asked for.
-/

namespace SqlWire

inductive Engine.Executes : Engine → List (String × Except String Unit) → Engine → Prop
  | nil (e : Engine) : Executes e [] e
  | cons {e e' : Engine} {rest : List (String × Except String Unit)} (sql : String)
      (more : Executes (e.execute sql).2 rest e') :
      Executes e ((sql, (e.execute sql).1) :: rest) e'

/-- A transaction is left with one call, or with a second one if the first is refused. -/
theorem Engine.leave_executes (sql : String) (e : Engine) :
    e.Executes [(sql, (e.leave sql).1)] (e.leave sql).2 ∨
      ∃ message result, (e.leave sql).1 = .error message ∧
        e.Executes [(sql, .error message), ("ROLLBACK", result)] (e.leave sql).2 := by
  cases h : e.execute sql with
  | mk result e' =>
      have hfirst : (e.execute sql).1 = result := by rw [h]
      have hengine : (e.execute sql).2 = e' := by rw [h]
      simp only [leave, h]
      by_cases hc : result.toBool = false ∧ e'.inTransaction = true
      · rw [if_pos hc]
        cases result with
        | ok u => cases hc.1
        | error message =>
            refine .inr ⟨message, (e'.execute "ROLLBACK").1, rfl, ?_⟩
            rw [← hfirst, ← hengine]
            exact .cons sql (.cons "ROLLBACK" (.nil _))
      · rw [if_neg hc, ← hfirst, ← hengine]
        exact .inl (.cons sql (.nil _))

namespace Session

/-- The words with which a client ends its transaction. -/
def IsEnding (word : String) : Prop :=
  word = "COMMIT" ∨ word = "ROLLBACK"

section

variable {s : Session} {word : String}

theorem IsEnding.statements (h : IsEnding word) : Sql.statements word = [word] := by
  rcases h with rfl | rfl <;> decide +kernel

theorem IsEnding.ends (h : IsEnding word) : (SqlKind.ofText word).endsTransaction = true := by
  rcases h with rfl | rfl <;> decide +kernel

theorem IsEnding.encode_tag (h : IsEnding word) :
    ∃ bytes, (BackendMessage.commandComplete word).encode = .ok bytes := by
  rcases h with rfl | rfl <;> exact ⟨_, rfl⟩

theorem IsEnding.encode_query (h : IsEnding word) :
    ∃ bytes, FrontendMessage.encodeAll [.query word] = .ok bytes := by
  rcases h with rfl | rfl <;> exact ⟨_, rfl⟩

def noTransaction : BackendMessage :=
  .noticeResponse (.warning SqlState.noActiveTransaction "there is no transaction in progress")

theorem surely_apply {work : Serving α} {a : α} {s' : Session} (h : work s = (.ok a, s')) :
    (surely work : Running α) s = (.ok (.ok a), s') := by
  have hb : (surely work : Running α) s = _ :=
    SqlWire.bind_apply work (fun a => pure (.ok a) : α → Serving (Except Diagnostic α)) s
  rw [hb, h]
  rfl

def left {η : Type} [Journal η] (word : String) (s : Session η) : Session η :=
  { s.noting (.ending word s.engine) with
    engine := (s.engine.leave word).2
    inTransaction := false
    aborted := false }

theorem simpleQuery_ending {η : Type} [Journal η] (h : IsEnding word) :
    (simpleQuery word : ServingIn η Unit) = runQuery [word] := by
  unfold simpleQuery
  rw [h.statements]
  rfl

theorem runStatement_healthy (h : IsEnding word) (params : List Value) (describing : Describing)
    (ha : s.aborted = false) :
    runStatement word params describing s = runEnd word s := by
  unfold runStatement
  rw [Running.bind_apply, Running.get_apply]
  dsimp only
  rw [if_neg (by simp [ha])]
  rcases h with rfl | rfl
  · have hk : SqlKind.ofText "COMMIT" = .commit := by decide +kernel
    rw [hk]
  · have hk : SqlKind.ofText "ROLLBACK" = .rollback := by decide +kernel
    rw [hk]

theorem runStatement_aborted (params : List Value) (describing : Describing)
    (ha : s.aborted = true) (sql : String) :
    runStatement sql params describing s = runAborted (SqlKind.ofText sql) s := by
  unfold runStatement
  rw [Running.bind_apply, Running.get_apply]
  dsimp only
  rw [if_pos ha]

theorem runEnd_inside (h : IsEnding word) (hw : s.writesLeft = none)
    (hi : s.inTransaction = true) :
    runEnd word s = match (s.engine.leave word).1 with
      | .ok () => (.ok (.ok ()),
          { s.left word with sent := .message (.commandComplete word) :: s.sent })
      | .error message => (.ok (.error (Engine.report message)), s.left word) := by
  unfold runEnd
  rw [Running.bind_apply, Running.get_apply]
  dsimp only
  rw [if_pos hi, Running.bind_apply, endTransaction_eq]
  cases (s.engine.leave word).1 with
  | error message => rfl
  | ok u =>
      obtain ⟨bytes, hb⟩ := h.encode_tag
      have hsend := send_eq (s := s.left word) (.commandComplete word) hw
      rw [hb] at hsend
      dsimp only
      exact surely_apply hsend

theorem runEnd_outside (h : IsEnding word) (hw : s.writesLeft = none)
    (hi : s.inTransaction = false) :
    runEnd word s = (.ok (.ok ()), { s with
      sent := .message (.commandComplete word) :: .message noTransaction :: s.sent }) := by
  have hnotice : notice SqlState.noActiveTransaction "there is no transaction in progress" s =
    (.ok (), { s with sent := .message noTransaction :: s.sent }) := send_eq noTransaction hw
  have htag := send_eq (s := { s with sent := .message noTransaction :: s.sent })
    (.commandComplete word) hw
  obtain ⟨bytes, hb⟩ := h.encode_tag
  rw [hb] at htag
  unfold runEnd
  rw [Running.bind_apply, Running.get_apply]
  dsimp only
  rw [if_neg (by simp [hi]), Running.bind_apply, surely_apply hnotice]
  exact surely_apply htag

theorem runAborted_ending {kind : SqlKind} (hk : kind.endsTransaction = true)
    (hw : s.writesLeft = none) :
    runAborted kind s = (.ok (.ok ()), { s.left "ROLLBACK" with
      sent := .message (.commandComplete "ROLLBACK") :: s.sent }) := by
  have hend : (endTransaction "ROLLBACK").run s = _ := endTransaction_eq "ROLLBACK" s
  have htag := send_eq (s := s.left "ROLLBACK") (.commandComplete "ROLLBACK") hw
  unfold runAborted
  simp only [hk]
  exact (Running.bind_apply _ _ s).trans (by rw [surely_apply hend]; exact surely_apply htag)

theorem runQuery_done {sql : String} {s' : Session}
    (h : runStatement sql [] .simple s = (.ok (.ok ()), s')) (rest : List String) :
    runQuery (sql :: rest) s = runQuery rest s' := by
  rw [runQuery, bind_apply, ExceptT.run, h]

theorem runQuery_refused {sql : String} {report : Diagnostic} {s' : Session}
    (h : runStatement sql [] .simple s = (.ok (.error report), s')) (rest : List String) :
    runQuery (sql :: rest) s = send (.errorResponse report) s' := by
  rw [runQuery, bind_apply, ExceptT.run, h]

theorem handle_query (hs : s.Quiet) (sql : String) :
    handle (.query sql) s = match simpleQuery sql s with
      | (.ok _, s') => (ready >>= fun _ => pure true : Serving Bool) s'
      | (.error e, s') => (.error e, s') := by
  unfold handle
  rw [bind_apply, get_apply]
  dsimp only
  rw [if_neg (by simp [hs.skipping])]
  rw [bind_apply]
  rcases simpleQuery sql s with ⟨_ | _, _⟩ <;> rfl

theorem takeIn_query_ok (hs : s.Quiet) {sql : String} {s' : Session}
    (h : simpleQuery sql s = (.ok (), s')) (hw : s'.writesLeft = none) :
    s.takeIn (.ok (.query sql)) =
      { s' with sent := .message (.readyForQuery s'.status) :: s'.sent } := by
  simp only [takeIn, hs.stage]
  unfold after
  rw [handle_query hs, h]
  dsimp only
  rw [bind_apply, ready_eq hw]
  rfl

theorem takeIn_query_error (hs : s.Quiet) {sql : String} {s' : Session} {e : ServerError}
    (h : simpleQuery sql s = (.error e, s')) :
    s.takeIn (.ok (.query sql)) = s'.finish (some e) := by
  simp only [takeIn, hs.stage]
  unfold after
  rw [handle_query hs, h]

theorem ending_outside (hs : s.Quiet) (h : IsEnding word) (ha : s.aborted = false)
    (hi : s.inTransaction = false) :
    s.takeIn (.ok (.query word)) = { s with
      sent := .message (.readyForQuery .idle) :: .message (.commandComplete word) ::
        .message noTransaction :: s.sent } := by
  have hq : simpleQuery word s = (.ok (), { s with
      sent := .message (.commandComplete word) :: .message noTransaction :: s.sent }) := by
    rw [simpleQuery_ending h, runQuery_done
      ((runStatement_healthy h _ _ ha).trans (runEnd_outside h hs.writes hi))]
    rfl
  rw [takeIn_query_ok hs hq hs.writes]
  simp [status, ha, hi]

theorem ending_aborted (hs : s.Quiet) (h : IsEnding word) (ha : s.aborted = true) :
    s.takeIn (.ok (.query word)) = { s.left "ROLLBACK" with
      sent := .message (.readyForQuery .idle) :: .message (.commandComplete "ROLLBACK") ::
        s.sent } := by
  have hq : simpleQuery word s = (.ok (), { s.left "ROLLBACK" with
      sent := .message (.commandComplete "ROLLBACK") :: s.sent }) := by
    rw [simpleQuery_ending h, runQuery_done
      ((runStatement_aborted _ _ ha _).trans (runAborted_ending h.ends hs.writes))]
    rfl
  rw [takeIn_query_ok hs hq hs.writes]
  rfl

/-- A healthy transaction is ended by the call that was asked for, or with the report that the
engine refused it. -/
theorem ending_healthy (hs : s.Quiet) (h : IsEnding word) (ha : s.aborted = false)
    (hi : s.inTransaction = true) :
    s.takeIn (.ok (.query word)) = match (s.engine.leave word).1 with
      | .ok () => { s.left word with
          sent := .message (.readyForQuery .idle) :: .message (.commandComplete word) :: s.sent }
      | .error message =>
        match (BackendMessage.errorResponse (Engine.report message)).encode with
        | .error e => (s.left word).finish (some (.io e.message))
        | .ok _ => { s.left word with
            sent := .message (.readyForQuery .idle) ::
              .message (.errorResponse (Engine.report message)) :: s.sent } := by
  have hq : simpleQuery word s = runQuery [word] s := by rw [simpleQuery_ending h]
  have hrun := (runStatement_healthy h [] .simple ha).trans (runEnd_inside h hs.writes hi)
  cases hl : (s.engine.leave word).1 with
  | ok u =>
      rw [hl] at hrun
      rw [runQuery_done hrun] at hq
      rw [takeIn_query_ok hs hq hs.writes]
      rfl
  | error message =>
      rw [hl] at hrun
      rw [runQuery_refused hrun, send_eq (s := s.left word) _ hs.writes] at hq
      dsimp only
      cases he : (BackendMessage.errorResponse (Engine.report message)).encode with
      | error e =>
          rw [he] at hq
          exact takeIn_query_error hs hq
      | ok bytes =>
          rw [he] at hq
          rw [takeIn_query_ok hs hq hs.writes]
          rfl

/-- Whatever the session stood in, it is outside any transaction afterwards. -/
theorem ending_leaves (hs : s.Quiet) (h : IsEnding word) :
    (s.takeIn (.ok (.query word))).inTransaction = false := by
  by_cases ha : s.aborted = true
  · rw [ending_aborted hs h ha]
    rfl
  have ha : s.aborted = false := by simpa using ha
  by_cases hi : s.inTransaction = true
  · rw [ending_healthy hs h ha hi]
    split
    · rfl
    · split
      · rfl
      · rfl
  have hi : s.inTransaction = false := by simpa using hi
  rw [ending_outside hs h ha hi]
  exact hi

/-- What the engine executed last had begun the transaction; these statements were next, and the
session left the transaction. -/
structure EndsWith (s : Session) (log : List (String × Except String Unit)) (s' : Session) :
    Prop where
  begun : ∃ sql, SqlKind.ofText sql = .begin ∧
    s.engine.lastExecuted? = some (Sql.engineBegin sql)
  executes : s.engine.Executes log s'.engine
  outside : s'.inTransaction = false

theorem reported_end {s' : Session} {m : BackendMessage} {bytes : Bytes} (hp : m.Plain)
    (he : m.encode = .ok bytes) {status : TransactionStatus}
    (h : s'.sent = .message (.readyForQuery status) :: .message m :: s.sent) :
    Reported s s' ↔ HasError [m.received] := by
  obtain ⟨bytes', he'⟩ := encode_ready status
  have hm : Says s [m.received] { s with sent := .message m :: s.sent } := .message hp he rfl
  have hsaid := hm.trans (Says.message (m := .readyForQuery status) trivial he' h)
  refine hsaid.reported_iff.trans ?_
  simp [HasError, BackendMessage.received]

/-- The end of a healthy transaction is reported as an error exactly if the engine refused it. -/
theorem ending_healthy_calls (hs : s.Quiet) (h : IsEnding word) (ha : s.aborted = false)
    (hi : s.inTransaction = true) (hq : (s.takeIn (.ok (.query word))).Quiet) :
    ¬Reported s (s.takeIn (.ok (.query word))) ∧
        s.EndsWith [(word, .ok ())] (s.takeIn (.ok (.query word))) ∨
      Reported s (s.takeIn (.ok (.query word))) ∧ ∃ message rest,
        s.EndsWith ((word, .error message) :: rest) (s.takeIn (.ok (.query word))) ∧
          ∀ call ∈ rest, call.1 = "ROLLBACK" := by
  have hbegun := hs.sound.begun hi
  have hleaves := ending_leaves hs h
  rw [ending_healthy hs h ha hi] at hq hleaves ⊢
  have hcalls := Engine.leave_executes word s.engine
  cases hl : (s.engine.leave word).1 with
  | ok u =>
      rw [hl] at hcalls hleaves
      obtain ⟨bytes, hb⟩ := h.encode_tag
      refine .inl ⟨?_, hbegun, ?_, hleaves⟩
      · rw [reported_end (m := .commandComplete word) trivial hb rfl]
        simp [HasError, BackendMessage.received]
      · rcases hcalls with hcalls | ⟨_, _, hm, -⟩
        · exact hcalls
        · cases hm
  | error message =>
      rw [hl] at hcalls hleaves hq
      dsimp only at hleaves hq ⊢
      cases he : (BackendMessage.errorResponse (Engine.report message)).encode with
      | error e =>
          rw [he] at hq
          cases hq.stage
      | ok bytes =>
          rw [he] at hleaves
          refine .inr ⟨?_, ?_⟩
          · rw [reported_end (m := .errorResponse (Engine.report message)) trivial he rfl]
            exact ⟨_, List.mem_cons_self⟩
          · rcases hcalls with hcalls | ⟨_, result, hm, hcalls⟩
            · exact ⟨message, [], ⟨hbegun, hcalls, hleaves⟩, by simp⟩
            · cases hm
              exact ⟨message, _, ⟨hbegun, hcalls, hleaves⟩, by simp⟩

/-- An aborted transaction ends with one call of the engine to roll back, or with two. -/
theorem ending_aborted_calls (hs : s.Quiet) (h : IsEnding word) (ha : s.aborted = true) :
    ∃ result rest, s.EndsWith (("ROLLBACK", result) :: rest) (s.takeIn (.ok (.query word))) ∧
      ∀ call ∈ rest, call.1 = "ROLLBACK" := by
  have hbegun := hs.sound.begun (hs.sound.inside ha)
  rw [ending_aborted hs h ha]
  rcases Engine.leave_executes "ROLLBACK" s.engine with hcalls | ⟨_, result, -, hcalls⟩
  · exact ⟨_, [], ⟨hbegun, hcalls, rfl⟩, by simp⟩
  · exact ⟨_, _, ⟨hbegun, hcalls, rfl⟩, by simp⟩

end

end Session

end SqlWire
