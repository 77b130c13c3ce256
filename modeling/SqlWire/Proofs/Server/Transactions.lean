import SqlWire.Proofs.Server.Statements

/-!
# How a session keeps account of its transaction

`Session.Sound` is what a session knows of its transaction at all times: an aborted transaction
is open, and the engine has executed nothing since the statement that began it. Every statement
keeps this, and a statement that fails never leaves the session in a healthy transaction.
-/

namespace SqlWire

/-- The engine after it was told to end a transaction, and what it answered: if it refuses and
is left inside the transaction, it is told to roll back. -/
def Engine.leave (sql : String) (e : Engine) : Except String Unit × Engine :=
  let (result, e) := e.execute sql
  (result, if result.toBool = false ∧ e.inTransaction then (e.execute "ROLLBACK").2 else e)

namespace Session

/-- What a session knows of its transaction. -/
structure Sound (s : Session) : Prop where
  inside : s.aborted = true → s.inTransaction = true
  begun : s.inTransaction = true →
    ∃ sql, SqlKind.ofText sql = .begin ∧ s.engine.lastExecuted? = some (Sql.engineBegin sql)

theorem Sound.of_outside {s : Session} (hi : s.inTransaction = false) (ha : s.aborted = false) :
    s.Sound :=
  ⟨by simp [ha], by simp [hi]⟩

theorem Sound.steady {t s : Session} (h : t.Sound) (hs : Steady t s) : s.Sound :=
  ⟨by rw [hs.aborted, hs.inTransaction]; exact h.inside,
    by rw [hs.inTransaction, hs.executed]; exact h.begun⟩

theorem Sound.sent {s : Session} (h : s.Sound) (out : List Outgoing) :
    Sound { s with sent := out } :=
  ⟨h.inside, h.begun⟩

theorem Sound.abort {s : Session} (h : s.Sound) : s.abort.Sound :=
  ⟨by
    intro ha
    rcases Bool.or_eq_true_iff.1 ha with ha | hi
    · exact h.inside ha
    · exact hi, h.begun⟩

theorem status_abort (s : Session) : s.abort.status ≠ .inTransaction := by
  cases ha : s.aborted <;> cases hi : s.inTransaction <;> simp [abort, status, ha, hi]

theorem status_outside {s : Session} (hi : s.inTransaction = false) :
    s.status ≠ .inTransaction := by
  cases ha : s.aborted <;> simp [status, ha, hi]

theorem status_aborted {s : Session} (ha : s.aborted = true) : s.status ≠ .inTransaction := by
  simp [status, ha]

def Halted (p : Phase) (t s : Session) : Prop :=
  ∃ q, q.Open ∧ Trail p t q s

def Answered (p : Phase) (t s : Session) : Prop :=
  Trail p t .between s ∧ s.Sound

def Failing (p : Phase) (t s : Session) : Prop :=
  (∃ q, q.Reports ∧ Trail p t q s) ∧ s.Sound ∧ s.status ≠ .inTransaction

section

variable {p q r : Phase} {t : Session}

theorem Trail.of_sent_eq {s s' : Session} (h : Trail p t q s) (hs : s'.sent = s.sent)
    (hg : s'.stage = s.stage) (hk : s'.skipping = s.skipping) (hw : s'.writesLeft = s.writesLeft) :
    Trail p t q s' :=
  ⟨h.goes.trans (Goes.of_sent_eq q hs), hg.trans h.stage, hk.trans h.skipping, hw.trans h.writes⟩

/-- A message that may come next, whatever else is known of a session that does not depend on
what it sent. -/
theorem Trail.send {I : Session → Prop} (m : BackendMessage) (hp : m.Plain) (hq : q.Open)
    (hn : q.next m.received = some r) (hI : ∀ s out, I s → I { s with sent := out }) :
    Ensures (fun s => Trail p t q s ∧ I s) (Session.send m) (fun _ s => Trail p t r s ∧ I s)
      (fun _ => Halted p t) :=
  send_ensures m (fun _ h => h.1.writes)
    (fun s _ h he => ⟨⟨h.1.goes.trans (Goes.message hp he rfl hn), h.1.stage, h.1.skipping,
      h.1.writes⟩, hI s _ h.2⟩)
    (fun _ _ h => ⟨q, hq, h.1⟩)

theorem send_tag (word : String) (hq : q.Reports)
    (hn : ∀ tag, q.next (.commandComplete tag) = some .between) :
    Running.Ensures (fun s => Trail p t q s ∧ s.Sound)
      (surely (Session.send (.commandComplete word)))
      (fun _ => Answered p t) (Failing p t) (Halted p t) :=
  Running.Ensures.surely (Trail.send (.commandComplete word) trivial hq.open (hn word)
    fun _ out h => h.sent out)

theorem send_notice (code message : String) (hq : q.Reports)
    (hn : ∀ report, q.next (.noticeResponse report) = some q) :
    Running.Ensures (fun s => Trail p t q s ∧ s.Sound) (surely (notice code message))
      (fun _ s => Trail p t q s ∧ s.Sound) (Failing p t) (Halted p t) :=
  Running.Ensures.surely (Trail.send (.noticeResponse (.warning code message)) trivial hq.open
    (hn _) fun _ out h => h.sent out)

end

theorem endTransaction_eq {η : Type} [Journal η] (sql : String) (s : Session η) :
    endTransaction sql s =
      (.ok (match (s.engine.leave sql).1 with
        | .ok () => .ok ()
        | .error message => .error (Engine.report message)),
        { s.noting (.ending sql s.engine) with
          engine := (s.engine.leave sql).2
          inTransaction := false
          aborted := false }) := by
  unfold endTransaction
  rw [Running.bind_apply, Running.modify_apply]
  dsimp only [noting]
  rw [Running.bind_apply, surely_ask_apply]
  dsimp only
  rw [Running.bind_apply, Running.modify_apply]
  dsimp only
  rw [Running.bind_apply, Running.get_apply]
  unfold Engine.leave
  cases s.engine.execute sql with
  | mk result e =>
      cases result with
      | ok u => rfl
      | error message =>
          by_cases hi : e.inTransaction = true
          · simp only [hi]
            rfl
          · simp only [hi]
            rfl

section

variable {p q : Phase} {t : Session}

theorem runAborted_ensures (kind : SqlKind) (hq : q.Reports)
    (hn : ∀ tag, q.next (.commandComplete tag) = some .between) :
    Running.Ensures (fun s => Trail p t q s ∧ s.Sound ∧ s.aborted = true) (runAborted kind)
      (fun _ => Answered p t) (Failing p t) (Halted p t) := by
  unfold runAborted
  by_cases hk : kind.endsTransaction = true
  · have hend : Running.Ensures (fun s => Trail p t q s ∧ s.Sound ∧ s.aborted = true)
        (surely (endTransaction "ROLLBACK").run) (fun _ s => Trail p t q s ∧ s.Sound)
        (Failing p t) (Halted p t) := by
      refine Running.Ensures.surely ⟨fun s hs => ?_⟩
      have he := endTransaction_eq "ROLLBACK" s
      unfold ExceptT.run
      rw [he]
      exact ⟨hs.1.of_sent_eq rfl rfl rfl rfl, Sound.of_outside rfl rfl⟩
    simp only [hk]
    exact hend.bind fun _ => send_tag "ROLLBACK" hq hn
  · simp only [hk]
    exact Running.Ensures.throw fun s hs => ⟨⟨q, hq, hs.1⟩, hs.2.1, status_aborted hs.2.2⟩

theorem runBegin_ensures {sql : String} (hs : SqlKind.ofText sql = .begin) (hq : q.Reports)
    (hn : ∀ tag, q.next (.commandComplete tag) = some .between)
    (ha : ∀ report, q.next (.noticeResponse report) = some q) :
    Running.Ensures (fun s => Trail p t q s ∧ s.Sound ∧ s.aborted = false) (runBegin sql)
      (fun _ => Answered p t) (Failing p t) (Halted p t) := by
  unfold runBegin
  refine Running.Ensures.get_bind fun s hp => ?_
  by_cases hi : s.inTransaction = true
  · rw [if_pos hi]
    refine Running.Ensures.bind (Running.Ensures.mono (send_notice _ _ hq ha) ?_
      (fun _ _ h => h) (fun _ h => h) fun _ h => h) fun _ => send_tag "BEGIN" hq hn
    intro _ h
    subst h
    exact ⟨hp.1, hp.2.1⟩
  · rw [if_neg hi]
    have hi : s.inTransaction = false := by simpa using hi
    -- the engine begins, or the session stays outside
    refine Running.Ensures.bind (Q := fun r s' => Trail p t q s' ∧ s'.inTransaction = false ∧
      s'.aborted = false ∧ s'.engine.lastExecuted? = some (Sql.engineBegin sql)) ?_ fun r => ?_
    · refine Running.Ensures.surely ⟨?_⟩
      intro _ h
      subst h
      exact ⟨hp.1.of_sent_eq rfl rfl rfl rfl, hi, hp.2.2, Engine.lastExecuted_execute _ _⟩
    · refine (Running.Ensures.orReport (Q := fun _ s' => Trail p t q s' ∧
        s'.inTransaction = false ∧ s'.aborted = false ∧
        s'.engine.lastExecuted? = some (Sql.engineBegin sql)) (fun _ _ h => h) ?_).bind fun _ => ?_
      · intro s' hs
        obtain ⟨ht, hi, ha, -⟩ := hs
        exact ⟨⟨q, hq, ht⟩, Sound.of_outside hi ha, status_outside hi⟩
      · refine Running.Ensures.bind (Running.Ensures.modify ?_) fun _ => send_tag "BEGIN" hq hn
        intro s' hs
        obtain ⟨ht, _, ha, he⟩ := hs
        exact ⟨ht.of_sent_eq rfl rfl rfl rfl, by simp [ha], fun _ => ⟨sql, hs, he⟩⟩

theorem runEnd_ensures (word : String) (hq : q.Reports)
    (hn : ∀ tag, q.next (.commandComplete tag) = some .between)
    (ha : ∀ report, q.next (.noticeResponse report) = some q) :
    Running.Ensures (fun s => Trail p t q s ∧ s.Sound) (runEnd word)
      (fun _ => Answered p t) (Failing p t) (Halted p t) := by
  unfold runEnd
  refine Running.Ensures.get_bind fun s hp => ?_
  by_cases hi : s.inTransaction = true
  · rw [if_pos hi]
    refine Running.Ensures.bind (Q := fun _ s' => Trail p t q s' ∧ s'.Sound) ⟨?_⟩
      fun _ => send_tag word hq hn
    intro s hs
    subst hs
    unfold ExceptT.run
    rw [endTransaction_eq]
    have ht : Trail p t q { s with
        engine := (s.engine.leave word).2, inTransaction := false, aborted := false } :=
      hp.1.of_sent_eq rfl rfl rfl rfl
    cases (s.engine.leave word).1 with
    | ok _ => exact ⟨ht, Sound.of_outside rfl rfl⟩
    | error message => exact ⟨⟨q, hq, ht⟩, Sound.of_outside rfl rfl, status_outside rfl⟩
  · rw [if_neg hi]
    refine Running.Ensures.bind (Running.Ensures.mono (send_notice _ _ hq ha) ?_
      (fun _ _ h => h) (fun _ h => h) fun _ h => h) fun _ => send_tag word hq hn
    intro _ h
    subst h
    exact hp

/-- A statement is answered in full, or it fails and leaves no healthy transaction behind. -/
theorem runStatement_ensures (sql : String) (params : List Value) {describing : Describing}
    (hd : describing.Suits q) :
    Running.Ensures (fun s => Trail p t q s ∧ s.Sound) (runStatement sql params describing)
      (fun _ => Answered p t) (Failing p t) (Halted p t) := by
  have hr := hd.reports
  have hn (tag : String) : q.next (.commandComplete tag) = some .between := hd.next_eq rfl
  have hnotice := hd.next_notice
  unfold runStatement
  refine Running.Ensures.get_bind fun s hp => ?_
  have of_s {P : Session → Prop} (h : P s) : ∀ s', s' = s → P s' := by
    intro _ h
    subst h
    exact h
  by_cases ha : s.aborted = true
  · rw [if_pos ha]
    exact (runAborted_ensures _ hr hn).mono (of_s ⟨hp.1, hp.2, ha⟩) (fun _ _ h => h)
      (fun _ h => h) fun _ h => h
  · rw [if_neg ha]
    have ha : s.aborted = false := by simpa using ha
    have hstream : Running.Ensures (· = s)
        (tryCatch (streamStatement sql params describing) fun report => do
          modify abort
          throw report)
        (fun _ => Answered p t) (Failing p t) (Halted p t) := by
      have streamed : Running.Ensures (· = s) (streamStatement sql params describing)
          (fun _ => Answered p t) (StreamsTo q s) (Halted p t) := by
        refine (streamStatement_streams (p := q) (t := s) sql params hd).mono
          (of_s ⟨Trail.refl q hp.1.writes, Steady.refl s⟩) ?_ (fun _ h => h) ?_
        · intro _ s' hs
          obtain ⟨ht, hs⟩ := hs
          exact ⟨hp.1.trans ht, hp.2.steady hs⟩
        · intro s' hs
          obtain ⟨r, hr, ht, -⟩ := hs
          exact ⟨r, hr.open, hp.1.trans ht⟩
      refine streamed.tryCatch fun report => ?_
      refine Running.Ensures.bind (Running.Ensures.modify (Q := fun _ => Failing p t) ?_)
        fun _ => Running.Ensures.throw fun _ h => h
      intro s' hs
      obtain ⟨r, hr, ht, hs⟩ := hs
      exact ⟨⟨r, hr, (hp.1.trans ht).of_sent_eq rfl rfl rfl rfl⟩, (hp.2.steady hs).abort,
        status_abort s'⟩
    cases hk : SqlKind.ofText sql with
    | begin =>
        exact (runBegin_ensures hk hr hn hnotice).mono (of_s ⟨hp.1, hp.2, ha⟩) (fun _ _ h => h)
          (fun _ h => h) fun _ h => h
    | commit | rollback =>
        exact (runEnd_ensures _ hr hn hnotice).mono (of_s hp) (fun _ _ h => h) (fun _ h => h)
          fun _ h => h
    | _ => exact hstream

end

end Session

end SqlWire
