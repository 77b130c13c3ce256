import SqlWire.Proofs.Server.Journals
import SqlWire.Proofs.Server.Talking

/-!
# All that a session does

`Session.Move` lists what a session ever does to its engine and to its account of the
transaction, and under which condition. Whatever bytes it takes in, and wherever a write fails,
it comes from one state to the next by such moves; what every move keeps, every session keeps.
-/

namespace SqlWire

def Remark.IsReport (r : Remark) : Prop :=
  ∃ report engine inTransaction,
    r = .said (.message (.errorResponse report)) engine inTransaction

/-- A journal was added to, with no error reported unless errors count. -/
def Journal.Adds {η : Type} [Journal η] (errors : Bool) (journal journal' : η) : Prop :=
  ∃ new, journal' = noteAll new journal ∧ (errors = false → ∀ r ∈ new, ¬r.IsReport)

theorem Journal.Adds.refl {η : Type} [Journal η] {errors : Bool} (journal : η) :
    Adds errors journal journal :=
  ⟨[], rfl, fun _ r hr => by cases hr⟩

theorem Journal.Adds.trans {η : Type} [Journal η] {errors : Bool} {a b c : η}
    (h : Adds errors a b) (h' : Adds errors b c) : Adds errors a c := by
  obtain ⟨old, rfl, hold⟩ := h
  obtain ⟨new, rfl, hnew⟩ := h'
  refine ⟨new ++ old, (noteAll_append new old a).symm, fun he r hr => ?_⟩
  exact (List.mem_append.1 hr).elim (hnew he r) (hold he r)

theorem Journal.Adds.one {η : Type} [Journal η] {errors : Bool} {r : Remark}
    (hr : errors = false → ¬r.IsReport) (journal : η) : Adds errors journal (note r journal) := by
  refine ⟨[r], rfl, fun he r' hr' => ?_⟩
  rw [List.mem_singleton.1 hr']
  exact hr he

namespace Session

variable {η : Type} [Journal η]

/-- The session touched neither its engine nor its account of the transaction, nor did it end. It
may have said something, but no error unless errors count. -/
structure Speaks (errors : Bool) (s s' : Session η) : Prop where
  engine : s'.engine = s.engine
  inTransaction : s'.inTransaction = s.inTransaction
  aborted : s'.aborted = s.aborted
  stage : ∀ error, s'.stage = .ended error → s.stage = .ended error
  sent : s.sent <:+ s'.sent
  journal : Journal.Adds errors s.journal s'.journal

inductive Move (errors : Bool) (s : Session η) : Session η → Prop
  | spoke {s' : Session η} (h : Speaks errors s s') : Move errors s s'
  /-- A call that is no execution, which an aborted transaction does not allow. -/
  | asked (call : EngineCall) (hc : ∀ sql, call ≠ .execute sql) (ha : s.aborted = false) :
      Move errors s { s with engine := s.engine.make call }
  /-- The engine refused to begin a transaction. -/
  | refused {sql message : String} (hb : IsBeginning sql) (hi : s.inTransaction = false)
      (hr : (s.engine.execute sql).1 = .error message) :
      Move errors s { s with engine := (s.engine.execute sql).2 }
  | begun {sql : String} (hb : IsBeginning sql) (hi : s.inTransaction = false)
      (hr : (s.engine.execute sql).1 = .ok ()) :
      Move errors s { s with engine := (s.engine.execute sql).2, inTransaction := true }
  /-- The transaction was ended as the client asked; an aborted one was rolled back. -/
  | left {word : String} (hw : IsEnding word) (hi : s.inTransaction = true ∨ s.aborted = true)
      (ha : s.aborted = true → word = "ROLLBACK") : Move errors s (s.left word)
  | aborted : Move errors s s.abort

abbrev Moves (errors : Bool) : Session η → Session η → Prop :=
  Relation.ReflTransGen (Move errors)

theorem Speaks.of_eq (errors : Bool) {s s' : Session η} (he : s'.engine = s.engine)
    (hi : s'.inTransaction = s.inTransaction) (ha : s'.aborted = s.aborted)
    (hg : ∀ error, s'.stage = .ended error → s.stage = .ended error) (hs : s'.sent = s.sent)
    (hj : s'.journal = s.journal) : Speaks errors s s' :=
  ⟨he, hi, ha, hg, hs ▸ List.suffix_rfl, hj ▸ .refl _⟩

/-- Something is said, and noted; it is no report unless errors count. -/
theorem Speaks.say {errors : Bool} {o : Outgoing}
    (ho : errors = false → ∀ report, o ≠ .message (.errorResponse report)) (s : Session η) :
    Speaks errors s (s.say o) := by
  refine ⟨rfl, rfl, rfl, fun _ h => h, List.suffix_cons _ _, .one (fun he => ?_) _⟩
  rintro ⟨report, engine, inTransaction, h⟩
  cases h
  exact ho he report rfl

theorem Move.reports {s s' : Session η} (h : Move false s s') : Move true s s' := by
  cases h with
  | spoke h =>
      obtain ⟨new, hs, -⟩ := h.journal
      exact .spoke ⟨h.engine, h.inTransaction, h.aborted, h.stage, h.sent, new, hs,
        fun he => by cases he⟩
  | asked call hc ha => exact .asked call hc ha
  | refused hb hi hr => exact .refused hb hi hr
  | begun hb hi hr => exact .begun hb hi hr
  | left hw hi ha => exact .left hw hi ha
  | aborted => exact .aborted

/-- What was noted stays in the journal; the errors that are reported are noted. -/
theorem Move.adds {errors : Bool} {s s' : Session η} (h : Move errors s s') :
    Journal.Adds errors s.journal s'.journal := by
  cases h with
  | spoke h => exact h.journal
  | left =>
      refine .one (fun _ => ?_) _
      rintro ⟨report, engine, inTransaction, h⟩
      cases h
  | _ => exact .refl _

theorem Moves.adds {errors : Bool} {s s' : Session η} (h : Moves errors s s') :
    Journal.Adds errors s.journal s'.journal := by
  induction h with
  | refl => exact .refl _
  | tail _ hm ih => exact ih.trans hm.adds

theorem Moves.reports {s s' : Session η} (h : Moves false s s') : Moves true s s' :=
  Relation.ReflTransGen.mono (fun _ _ h => h.reports) _ _ h

/-! ## Speaking -/

section

variable {errors : Bool} {P : Session η → Prop}

def Outlasts (errors : Bool) (P : Session η → Prop) : Prop :=
  ∀ s s', P s → Speaks errors s s' → P s'

theorem moves_outlast (t : Session η) : Outlasts errors (Moves errors t) :=
  fun _ _ h hs => h.tail (.spoke hs)

theorem modify_keeps (hP : Outlasts errors P) (f : Session η → Session η)
    (hf : ∀ s, Speaks errors s (f s)) :
    Ensures P (modify f : ServingIn η Unit) (fun _ => P) (fun _ => P) :=
  Ensures.modify fun s h => hP s _ h (hf s)

theorem send_keeps (hP : Outlasts errors P) (m : BackendMessage)
    (hm : errors = false → ∀ report, m ≠ .errorResponse report) :
    Ensures P (send m) (fun _ => P) (fun _ => P) := by
  refine send_acts m (fun s _ h => ?_) fun s h => ?_
  · exact hP s _ h (.of_eq _ rfl rfl rfl (fun _ h => h) rfl rfl)
  · exact hP s _ h (.say (fun he report h => hm he report (Outgoing.message.inj h)) s)

end

/-! ## Statements -/

section

variable {errors : Bool} {t : Session η}

def Fails (errors : Bool) (t s : Session η) : Prop :=
  Moves errors t s ∧ Condemned s

theorem fails_outlasts : Outlasts errors (Fails errors t) := by
  intro s s' h hs
  refine ⟨moves_outlast t s s' h.1 hs, fun hi => ?_⟩
  rw [hs.inTransaction] at hi
  rw [hs.aborted]
  exact h.2 hi

/-- Each act with a statement is a move. -/
theorem Act.move {free : String → Prop} {s s' : Session η} (h : Act free s s') :
    Move errors s s' := by
  cases h with
  | wrote left => exact .spoke (.of_eq _ rfl rfl rfl (fun _ h => h) rfl rfl)
  | said m hm =>
      refine .spoke (.say (fun _ report h => ?_) s)
      cases h
      cases hm
  | asked call hc ha hp => exact .asked call hc ha
  | refused hb hi hr => exact .refused hb hi hr
  | begun hb hi hr => exact .begun hb hi hr
  | left hw hi ha => exact .left hw hi ha
  | aborted => exact .aborted

theorem Acts.moves {free : String → Prop} {s s' : Session η} (h : Acts free s s') :
    Moves errors s s' :=
  Relation.ReflTransGen.mono (fun _ _ h => h.move) _ _ h

/-- Whatever a statement is, running it leads on by moves; if it fails, the session cannot commit
the transaction that it is in. -/
theorem runStatement_moves (sql : String) (params : List Value) (describing : Describing) :
    Running.Ensures (Moves errors t) (runStatement sql params describing)
      (fun _ => Moves errors t) (Fails errors t) (Moves errors t) := by
  constructor
  intro s hs
  refine Ends.mono ((runStatement_does sql params describing).run s rfl) (fun result s' h => ?_)
    fun _ _ h => hs.trans h.moves
  cases result with
  | ok u => exact hs.trans h.moves
  | error report => exact ⟨hs.trans h.1.moves, h.2⟩

end

/-! ## Messages -/

section

variable {t : Session η}

/-- The last thing that the session did is to report an error; it cannot commit the transaction
that it is in. -/
def Reporting (t s : Session η) : Prop :=
  ∃ u report, Fails false t u ∧ s = u.say (.message (.errorResponse report))

/-- No error was reported since, or the session did nothing more once it had reported one. -/
def Settles (t s : Session η) : Prop :=
  Moves false t s ∨ Reporting t s

theorem Settles.moves {s : Session η} (h : Settles t s) : Moves true t s := by
  rcases h with h | ⟨u, report, h, rfl⟩
  · exact h.reports
  · exact h.1.reports.tail (.spoke (.say (fun he => by cases he) u))

abbrev Answering (t : Session η) (work : ServingIn η Unit) : Prop :=
  Ensures (Moves false t) work (fun _ => Settles t) (fun _ => Moves false t)

theorem report_settles (report : Diagnostic) :
    Ensures (Fails false t) (send (.errorResponse report)) (fun _ => Settles t)
      (fun _ => Moves false t) := by
  refine (send_acts (.errorResponse report) (P := Fails false t) (Q := Settles t)
    (fun s _ h => ?_) fun s h => ?_).mono (fun _ h => h) (fun _ _ h => h) fun _ _ h => h.1
  · exact fails_outlasts _ _ h (.of_eq _ rfl rfl rfl (fun _ h => h) rfl rfl)
  · exact .inr ⟨s, report, h, rfl⟩

/-- A statement is run, and then its success is gone on from or its error is dealt with. -/
theorem statement_answers {sql : String} {params : List Value} {describing : Describing}
    {next : Except Diagnostic Unit → ServingIn η Unit} (hok : Answering t (next (.ok ())))
    (herror : ∀ report, Ensures (Fails false t) (next (.error report)) (fun _ => Settles t)
      (fun _ => Moves false t)) :
    Answering t ((runStatement sql params describing).run >>= next) := by
  refine Ensures.bind (runStatement_moves sql params describing) fun result => ?_
  cases result with
  | ok u => exact hok
  | error report => exact herror report

theorem runQuery_answers (statements : List String) : Answering t (runQuery statements) := by
  induction statements with
  | nil => exact Ensures.pure fun _ h => .inl h
  | cons sql statements ih => exact statement_answers ih fun report => report_settles report

theorem say_answers (m : BackendMessage) (hm : ∀ report, m ≠ .errorResponse report) :
    Answering t (send m) :=
  (send_keeps (moves_outlast t) m fun _ => hm).mono (fun _ h => h) (fun _ _ h => .inl h)
    fun _ _ h => h

theorem simpleQuery_answers (sql : String) : Answering t (simpleQuery sql) := by
  unfold simpleQuery
  dsimp only
  split
  · exact say_answers _ (by simp)
  · exact runQuery_answers _

theorem extendedError_answers (report : Diagnostic) : Answering t (extendedError report) := by
  refine Ensures.bind (Q := fun _ => Fails false t) (Ensures.modify fun s h => ?_)
    fun _ => report_settles report
  have skips : Speaks false s.abort { s.abort with skipping := true } :=
    Speaks.of_eq false rfl rfl rfl (fun _ h => h) rfl rfl
  refine ⟨(h.tail .aborted).tail (.spoke skips), fun hi => ?_⟩
  exact Bool.or_eq_true_iff.2 (.inr hi)

/-- A change that the engine and the account of the transaction are no part of. -/
theorem modify_bind_answers {f : Session η → Session η} {work : Unit → ServingIn η Unit}
    (hf : ∀ s, Speaks false s (f s)) (h : Answering t (work ())) :
    Answering t ((modify f : ServingIn η Unit) >>= work) :=
  (modify_keeps (moves_outlast t) f hf).bind fun _ => h

theorem bind_answers (params : List (Option Bytes)) : Answering t (bind params) := by
  refine Ensures.get_bind fun s hs => Ensures.of_eq hs ?_
  cases s.prepared with
  | none => exact extendedError_answers _
  | some p =>
      dsimp only
      cases bindParams p.paramTypes params with
      | error e => exact extendedError_answers _
      | ok values =>
          exact modify_bind_answers (fun _ => .of_eq _ rfl rfl rfl (fun _ h => h) rfl rfl)
            (say_answers _ (by simp))

theorem describe_answers (target : DescribeTarget) : Answering t (describe target) := by
  refine Ensures.get_bind fun s hs => Ensures.of_eq hs ?_
  cases target with
  | statement => exact extendedError_answers _
  | portal =>
      cases s.portal with
      | none => exact extendedError_answers _
      | some p =>
          refine Ensures.modify fun s hs => .inl (hs.tail (.spoke ?_))
          exact .of_eq _ rfl rfl rfl (fun _ h => h) rfl rfl

theorem executePortal_answers : Answering t executePortal := by
  refine Ensures.get_bind fun s hs => Ensures.of_eq hs ?_
  cases s.portal with
  | none => exact extendedError_answers _
  | some p =>
      refine modify_bind_answers (fun _ => .of_eq _ rfl rfl rfl (fun _ h => h) rfl rfl) ?_
      split
      · exact say_answers _ (by simp)
      · split
        · exact extendedError_answers _
        · exact statement_answers (Ensures.pure fun _ h => .inl h) fun report =>
            (extendedError_answers report).mono (fun _ h => h.1) (fun _ _ h => h) fun _ _ h => h

def statementWork? : FrontendMessage → Option (ServingIn η Unit)
  | .query sql => some (simpleQuery sql)
  | .bind _ _ params => some (bind params)
  | .describe target _ => some (describe target)
  | .execute .. => some executePortal
  | _ => none

theorem statementWork_answers {m : FrontendMessage} {work : ServingIn η Unit}
    (h : statementWork? m = some work) : Answering t work := by
  cases m with
  | query sql => cases h; exact simpleQuery_answers sql
  | bind portal statement params => cases h; exact bind_answers params
  | describe target name => cases h; exact describe_answers target
  | execute portal maxRows => cases h; exact executePortal_answers
  | _ => cases h

/-! ## The whole session -/

theorem moves_talk (t : Session η) : Talks (Moves true t) where
  wrote _ h := h.tail (.spoke (.of_eq _ rfl rfl rfl (fun _ h => h) rfl rfl))
  said _ h := h.tail (.spoke (.say (fun he => by cases he) _))
  held _ _ _ h := h.tail (.spoke (.of_eq _ rfl rfl rfl (fun _ h => h) rfl rfl))
  onward _ _ he h :=
    h.tail (.spoke (.of_eq _ rfl rfl rfl (fun error hs => absurd hs (he error)) rfl rfl))
  aborted h := h.tail .aborted

theorem Answering.moving {work : ServingIn η Unit} (h : ∀ u, Answering u work) :
    Keeping (Moves true t) work := by
  refine Ensures.of_each fun s hs => ?_
  refine (h s).mono (fun _ he => ?_) (fun _ _ h => hs.trans h.moves) fun _ _ h =>
    hs.trans h.reports
  subst he
  exact .refl

theorem Moves.stage {errors : Bool} {s s' : Session η} (h : Moves errors s s')
    {error : Option ServerError} (hs : s'.stage = .ended error) : s.stage = .ended error := by
  induction h with
  | refl => exact hs
  | tail _ hm ih =>
      cases hm with
      | spoke h => exact ih (h.stage error hs)
      | _ => exact ih hs

/-- What becomes of a session: it goes on by its moves, or these were its last and it is over. -/
inductive Course (s : Session η) : Session η → Prop
  | on {t : Session η} (h : Moves true s t) : Course s t
  | ended {t : Session η} (h : Moves true s t) (error : Option ServerError) :
      Course s (t.finish error)

theorem Course.after_moves {s t u : Session η} (h : Course t u) (hm : Moves true s t) :
    Course s u := by
  cases h with
  | on h => exact .on (hm.trans h)
  | ended h error => exact .ended (hm.trans h) error

theorem takeIn_course (read : Except WireError FrontendMessage) (s : Session η) :
    Course s (s.takeIn read) := by
  have moving {work : ServingIn η Unit} (h : ∀ u, Answering u work) :
      Ensures (· = s) work (fun _ => Moves true s) (fun _ => Moves true s) :=
    Ensures.of_eq .refl (Answering.moving h)
  exact (moves_talk s).takeIn .on (fun error h => .ended h error) .refl read
    (fun sql _ => moving fun _ => simpleQuery_answers sql)
    fun _ _ _ => moving fun _ => executePortal_answers

/-- A session that is over takes in nothing. -/
theorem serve_finished (s : Session η) (error : Option ServerError) (buffer : Bytes) :
    (s.finish error).serve buffer = (s.finish error, buffer) := by
  have hn : (s.finish error).nextMessage buffer = .ok none := rfl
  rw [serve]
  split
  · next h => rw [hn] at h; cases h
  · rfl
  · next h => rw [hn] at h; cases h

theorem serve_course (s : Session η) (buffer : Bytes) : Course s (s.serve buffer).1 := by
  fun_induction serve s buffer with
  | case1 s buffer e hn => exact .ended .refl _
  | case2 s buffer hn => exact .on .refl
  | case3 s buffer m rest hn ih =>
      generalize hs : s.takeIn m = s' at ih ⊢
      have hc : Course s s' := hs ▸ takeIn_course m s
      cases hc with
      | on h => exact ih.after_moves h
      | ended h error => rw [serve_finished]; exact .ended h error

theorem serveChunks_finished (s : Session η) (error : Option ServerError) (buffer : Bytes)
    (chunks : List Bytes) : ((s.finish error).serveChunks buffer chunks).1 = s.finish error := by
  induction chunks generalizing buffer with
  | nil => rfl
  | cons chunk chunks ih =>
      rw [serveChunks, serve_finished]
      exact ih _

theorem Course.serveChunks {s u : Session η} (h : Course s u) (buffer : Bytes)
    (chunks : List Bytes) : Course s (u.serveChunks buffer chunks).1 := by
  induction chunks generalizing u buffer with
  | nil => exact h
  | cons chunk chunks ih =>
      cases h with
      | on h => exact ih ((serve_course _ _).after_moves h) _
      | ended h error =>
          rw [serveChunks_finished]
          exact .ended h error

theorem Course.hangUp {s u : Session η} (h : Course s u) : Course s u.hangUp := by
  cases h with
  | on h =>
      unfold Session.hangUp
      split
      · exact .on h
      · exact .ended h none
  | ended h error => exact .ended h error

end

end Session

end SqlWire
