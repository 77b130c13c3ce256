import SqlWire.Proofs.Server.Brackets

/-!
# Transactions in which a statement failed

When the work on a message reports an error, the work is over and the transaction that the session
is in is aborted. From the report on nothing is asked of the engine until it is told to roll back,
by the client's wish to end the transaction or at the end of the session; whatever is executed
afterwards belongs to later transactions.
-/

namespace SqlWire

/-- The engine was told to roll back, once or again after it refused, and nothing else. -/
def Engine.RollsBack (e e' : Engine) : Prop :=
  ∃ calls done, e.Ran (.execute "ROLLBACK" :: calls) done e' ∧
    ∀ call ∈ calls, call = .execute "ROLLBACK"

theorem Engine.execute_rollsBack (e : Engine) : e.RollsBack (e.execute "ROLLBACK").2 :=
  ⟨[], _, e.ran_execute "ROLLBACK", by simp⟩

theorem Engine.leave_rollsBack (e : Engine) : e.RollsBack (e.leave "ROLLBACK").2 := by
  have first := e.ran_execute "ROLLBACK"
  by_cases hd : (e.execute "ROLLBACK").1.toBool = false ∧
      (e.execute "ROLLBACK").2.inTransaction = true
  · have second := (e.execute "ROLLBACK").2.ran_execute "ROLLBACK"
    have hl : (e.leave "ROLLBACK").2 = ((e.execute "ROLLBACK").2.execute "ROLLBACK").2 := if_pos hd
    rw [hl]
    exact ⟨_, _, first.trans second, by simp⟩
  · have hl : (e.leave "ROLLBACK").2 = (e.execute "ROLLBACK").2 := if_neg hd
    rw [hl]
    exact e.execute_rollsBack

namespace Session

/-- Meanwhile an error was reported in a transaction, and the engine was so then. -/
def Reports (s s' : Journaled) (e : Engine) : Prop :=
  ∃ new report, s'.journal = new ++ s.journal ∧
    .said (.message (.errorResponse report)) e true ∈ new

/-- The transaction is still aborted, and nothing was asked of the engine since it was so. -/
structure Waits (e : Engine) (t : Journaled) : Prop where
  engine : t.engine = e
  inTransaction : t.inTransaction = true
  aborted : t.aborted = true

/-- The first thing that was asked of the engine since it was so is to roll back, and what it
executed after that falls into brackets of its own. -/
def RolledBack (e : Engine) (t : Journaled) : Prop :=
  ∃ e', e.RollsBack e' ∧ ∃ calls units last, Bracketed e' t calls units last

section

variable {s t t' : Journaled} {e : Engine}

theorem Moves.unreported (h : Moves false s t) : ¬Reports s t e := by
  obtain ⟨new, hj, hn⟩ := h.adds
  rw [Journal.noteAll_list] at hj
  rintro ⟨new', report, hj', hr⟩
  obtain rfl : new' = new := List.append_cancel_right (hj'.symm.trans hj)
  exact hn rfl _ hr ⟨report, e, true, rfl⟩

/-- The report that was made in a transaction is the last thing that was done. -/
theorem Reporting.waits (h : Reporting s t) (hr : Reports s t e) : Waits e t := by
  obtain ⟨u, report, ⟨moves, condemned⟩, rfl⟩ := h
  obtain ⟨new, hj, hn⟩ := moves.adds
  rw [Journal.noteAll_list] at hj
  obtain ⟨new', report', hj', hr⟩ := hr
  have said : (u.say (.message (.errorResponse report))).journal =
      (.said (.message (.errorResponse report)) u.engine u.inTransaction :: new) ++ s.journal :=
    congrArg _ hj
  obtain rfl := List.append_cancel_right (hj'.symm.trans said)
  rcases List.mem_cons.1 hr with hr | hr
  · obtain ⟨-, rfl, hi⟩ := Remark.said.inj hr
    exact ⟨rfl, hi.symm, condemned hi.symm⟩
  · exact absurd ⟨report', e, true, rfl⟩ (hn rfl _ hr)

/-- An aborted transaction waits to be rolled back, whatever comes; once it is, it is over. -/
theorem Waits.moves (h : Waits e t) {errors : Bool} (hm : Moves errors t t') :
    Waits e t' ∨ ∃ e', e.RollsBack e' ∧ KeepsBrackets e' t' := by
  induction hm with
  | refl => exact .inl h
  | tail _ hm ih =>
      rcases ih with hw | ⟨e', he, hb⟩
      · -- aborted and inside, the session can only speak, or leave
        cases hm with
        | spoke h => exact .inl ⟨h.engine.trans hw.engine, h.inTransaction.trans hw.inTransaction,
            h.aborted.trans hw.aborted⟩
        | asked call hc ha => rw [hw.aborted] at ha; cases ha
        | refused hb hi hr => rw [hw.inTransaction] at hi; cases hi
        | begun hb hi hr => rw [hw.inTransaction] at hi; cases hi
        | left hword hi ha =>
            obtain rfl := ha hw.aborted
            refine .inr ⟨_, e.leave_rollsBack, ⟨[], [], [], ?_, by simp, rfl⟩, ?_⟩
            · rw [← hw.engine]
              exact .refl _
            · exact fun h => by cases h
        | aborted =>
            exact .inl ⟨hw.engine, hw.inTransaction, Bool.or_eq_true_iff.2 (.inl hw.aborted)⟩
      · exact .inr ⟨e', he, hb.move hm⟩

theorem finish_rolledBack (he : t.engine = e) (hi : t.inTransaction = true)
    (error : Option ServerError) : RolledBack e (t.finish error) := by
  refine ⟨_, e.execute_rollsBack, [], [], [], ?_⟩
  unfold Session.finish
  dsimp only
  rw [if_pos hi, he]
  exact ⟨.refl _, by simp, rfl⟩

theorem Waits.course (h : Waits e t) (hc : Course t t') : Waits e t' ∨ RolledBack e t' := by
  cases hc with
  | on hm =>
      rcases h.moves hm with hw | ⟨e, he, hb, -⟩
      · exact .inl hw
      · exact .inr ⟨e, he, hb⟩
  | ended hm error =>
      rcases h.moves hm with hw | ⟨e, he, ⟨calls, units, last, hb⟩, -⟩
      · exact .inr (finish_rolledBack hw.engine hw.inTransaction error)
      · obtain ⟨calls, units, hb⟩ := hb.finish error
        exact .inr ⟨e, he, calls, units, [], hb⟩

end

/-! ## Messages with which a statement can fail -/

def followUp {η : Type} [Journal η] : FrontendMessage → ServingIn η Bool
  | .query _ => ready >>= fun _ => pure true
  | _ => pure true

section

variable {η : Type} [Journal η] {s : Session η} {m : FrontendMessage} {work : ServingIn η Unit}

theorem handle_statement (hm : statementWork? m = some work) (hk : s.skipping = false) :
    handle m s = (work >>= fun _ => followUp m) s := by
  unfold handle
  rw [bind_apply, get_apply]
  dsimp only
  rw [if_neg (by simp [hk])]
  cases m with
  | query | bind | describe | execute =>
      cases hm
      rfl
  | _ => cases hm

theorem takeIn_statement_ok (hm : statementWork? m = some work) (hs : s.stage = .serving)
    (hk : s.skipping = false) {s' : Session η} (h : work s = (.ok (), s')) :
    s.takeIn (.ok m) = s'.after (followUp m) := by
  simp only [takeIn, hs]
  unfold after
  rw [handle_statement hm hk, bind_apply, h]

theorem takeIn_statement_error (hm : statementWork? m = some work) (hs : s.stage = .serving)
    (hk : s.skipping = false) {s' : Session η} {e : ServerError} (h : work s = (.error e, s')) :
    s.takeIn (.ok m) = s'.finish (some e) := by
  simp only [takeIn, hs]
  unfold after
  rw [handle_statement hm hk, bind_apply, h]

theorem followUp_course (m : FrontendMessage) (s : Session η) :
    Course s (s.after (followUp m)) := by
  have done : Keeping (Moves true s) (pure true : ServingIn η Bool) := Ensures.pure fun _ h => h
  have goes : Keeping (Moves true s) (followUp m) := by
    cases m with
    | query sql => exact (moves_talk s).ready.bind fun _ => done
    | _ => exact done
  exact Talks.after .on (fun error h => .ended h error) (Ensures.of_eq .refl goes)

end

section

variable {s : Journaled} {m : FrontendMessage} {work : ServingIn (List Remark) Unit} {e : Engine}

/-- The work failed in a transaction, and the engine was so then: an error was reported, or the
work was broken off. -/
def FailsInside (work : ServingIn (List Remark) Unit) (s : Journaled) (e : Engine) : Prop :=
  Reports s (work s).2 e ∨
    (∃ error, (work s).1 = .error error) ∧ (work s).2.inTransaction = true ∧ (work s).2.engine = e

/-- Work that reported an error in a transaction is over, and leaves the transaction aborted. -/
theorem reports_waits (hm : statementWork? m = some work) {s' : Journaled}
    (hw : work s = (.ok (), s')) (hr : Reports s s' e) : Waits e s' := by
  have answer : Answering s work := statementWork_answers hm
  rcases answer.ok .refl hw with hs | hs
  · exact absurd hr hs.unreported
  · exact hs.waits hr

/-- Once a statement failed in a transaction, that transaction is never committed. When the report
is made, the work on the message is over and nothing more is asked of the engine. Whatever comes
then, the next thing that the engine is asked for is to roll the transaction back, and by the end
of the session it has been. -/
theorem failed_transaction_rolls_back (hm : statementWork? m = some work)
    (hs : s.stage = .serving) (hk : s.skipping = false) (hf : FailsInside work s e)
    (buffer : Bytes) (chunks : List Bytes) :
    let t := ((s.takeIn (.ok m)).serveChunks buffer chunks).1
    (work s).2.engine = e ∧ (Waits e t ∨ RolledBack e t) ∧ RolledBack e t.hangUp := by
  intro t
  have answer : Answering s work := statementWork_answers hm
  rcases hw : work s with ⟨error | u, s'⟩
  · -- the work was broken off, before anything was reported
    have moves : Moves false s s' := answer.error .refl hw
    rw [FailsInside, hw] at hf
    obtain ⟨-, hi, he⟩ := hf.resolve_left moves.unreported
    have ht : t = s'.finish (some error) := by
      have h := takeIn_statement_error hm hs hk hw
      change ((s.takeIn (.ok m)).serveChunks buffer chunks).1 = _
      rw [h, serveChunks_finished]
    have hb : RolledBack e (s'.finish (some error)) := finish_rolledBack he hi _
    rw [ht]
    exact ⟨he, .inr hb, hb⟩
  · have reported : Reports s s' e := by
      rw [FailsInside, hw] at hf
      exact hf.resolve_right fun h => by
        obtain ⟨⟨error, he⟩, -⟩ := h
        cases he
    have waits : Waits e s' := reports_waits hm hw reported
    have course : Course s' t := by
      have h := takeIn_statement_ok hm hs hk hw
      change Course s' ((s.takeIn (.ok m)).serveChunks buffer chunks).1
      rw [h]
      exact (followUp_course m s').serveChunks buffer chunks
    have going : ∀ error, s'.stage ≠ .ended error := by
      intro error he
      have hs' := (answer.ok .refl hw).moves.stage he
      rw [hs] at hs'
      cases hs'
    refine ⟨waits.engine, waits.course course, ?_⟩
    rcases waits.course course.hangUp with hw | hb
    · have ho := course.hangUp_outside going
      rw [hw.inTransaction] at ho
      cases ho
    · exact hb

def troubled : Journaled where
  config := { databasePath := "" }
  processId := 1
  secretKey := 2
  engine := { answers := [.error "no such table: t" none], inTransaction := true }
  stage := .serving
  inTransaction := true
  journal := []

/-- A select from the missing table is reported, and its transaction rolled back. -/
theorem failed_transaction_rolls_back_troubled :
    let s := (simpleQuery "SELECT x FROM t" troubled).2
    Reports troubled s s.engine ∧
      RolledBack s.engine ((troubled.takeIn (.ok (.query "SELECT x FROM t"))).serveChunks []
        [FrontendMessage.terminate.encode.toOption.getD []]).1.hangUp := by
  intro s
  have reported : Reports troubled s s.engine := by
    refine ⟨[.said (.message (.errorResponse (Engine.report "no such table: t"))) s.engine true],
      Engine.report "no such table: t", ?_, List.mem_cons_self⟩
    decide +kernel
  exact ⟨reported, (failed_transaction_rolls_back (m := .query "SELECT x FROM t") rfl rfl rfl
    (.inl reported) _ _).2.2⟩

end

end Session

end SqlWire
