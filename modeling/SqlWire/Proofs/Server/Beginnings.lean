import SqlWire.Proofs.Server.Endings

/-!
# How a transaction begins

What a session outside any transaction does when its client asks it to begin one: it is inside
afterwards, unless it tells its client that the engine refused.
-/

namespace SqlWire

namespace Session

section

variable {s : Session}

def begun (s : Session) : Session :=
  { s with engine := (s.engine.execute "BEGIN").2, inTransaction := true }

def unbegun (s : Session) : Session :=
  { s with engine := (s.engine.execute "BEGIN").2 }

theorem runBegin_outside (hw : s.writesLeft = none) (hi : s.inTransaction = false) :
    runBegin "BEGIN" s = match (s.engine.execute "BEGIN").1 with
      | .ok () => (.ok (.ok ()),
          { s.begun with sent := .message (.commandComplete "BEGIN") :: s.sent })
      | .error message => (.ok (.error (Engine.report message)), s.unbegun) := by
  have hb : Sql.engineBegin "BEGIN" = "BEGIN" := by decide +kernel
  unfold runBegin
  rw [Running.bind_apply, Running.get_apply]
  dsimp only
  rw [if_neg (by simp [hi]), hb, Running.bind_apply, surely_ask_apply]
  cases (s.engine.execute "BEGIN").1 with
  | error message => rfl
  | ok u =>
      have hsend := send_eq (s := s.begun) (.commandComplete "BEGIN") hw
      exact surely_apply hsend

theorem simpleQuery_begin (hq : s.Quiet) (hi : s.inTransaction = false) :
    simpleQuery "BEGIN" s = match (s.engine.execute "BEGIN").1 with
      | .ok () => (.ok (), { s.begun with sent := .message (.commandComplete "BEGIN") :: s.sent })
      | .error message => send (.errorResponse (Engine.report message)) s.unbegun := by
  have hs : Sql.statements "BEGIN" = ["BEGIN"] := by decide +kernel
  have hk : SqlKind.ofText "BEGIN" = .begin := by decide +kernel
  have ha : s.aborted = false := by
    cases ha : s.aborted with
    | false => rfl
    | true =>
        rw [hq.sound.inside ha] at hi
        cases hi
  have run : runStatement "BEGIN" [] .simple s = runBegin "BEGIN" s := by
    unfold runStatement
    rw [Running.bind_apply, Running.get_apply]
    dsimp only
    rw [if_neg (by simp [ha]), hk]
  rw [runBegin_outside hq.writes hi] at run
  have single : (simpleQuery "BEGIN" : Serving Unit) = runQuery ["BEGIN"] := by
    unfold simpleQuery
    rw [hs]
    rfl
  rw [single]
  cases he : (s.engine.execute "BEGIN").1 with
  | ok u =>
      rw [he] at run
      exact runQuery_done run []
  | error message =>
      rw [he] at run
      exact runQuery_refused run []

/-- A session that was asked to begin a transaction, and reports no error, is inside one. -/
theorem begin_begins (hq : s.Quiet) (hi : s.inTransaction = false)
    (hq' : (s.takeIn (.ok (.query "BEGIN"))).Quiet)
    (hr : ¬Reported s (s.takeIn (.ok (.query "BEGIN")))) :
    (s.takeIn (.ok (.query "BEGIN"))).inTransaction = true := by
  have query := simpleQuery_begin hq hi
  cases he : (s.engine.execute "BEGIN").1 with
  | ok u =>
      rw [he] at query
      rw [takeIn_query_ok hq query hq.writes]
      rfl
  | error message =>
      rw [he] at query
      dsimp only at query
      rw [send_eq (s := s.unbegun) _ hq.writes] at query
      cases hb : (BackendMessage.errorResponse (Engine.report message)).encode with
      | error e =>
          rw [hb] at query
          rw [takeIn_query_error hq query] at hq'
          cases hq'.stage
      | ok bytes =>
          rw [hb] at query
          rw [takeIn_query_ok hq query hq.writes] at hr
          refine absurd ?_ hr
          rw [reported_end (m := .errorResponse (Engine.report message)) trivial hb rfl]
          exact ⟨_, List.mem_cons_self⟩

end

end Session

end SqlWire
