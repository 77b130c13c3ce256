import Mathlib.Logic.Relation
import SqlWire.Proofs.Server.Endings

/-!
# What a session does with a statement

`Session.Act` lists each thing that a session does while it runs a statement, and under which
condition. None of them reports an error or says that the session is ready, and a statement is
prepared inside a transaction unless it is one that need not be. Wherever a write or the engine
fails, a statement is run by a sequence of such acts.
-/

namespace SqlWire

def Engine.make (e : Engine) : EngineCall → Engine
  | .execute sql => (e.execute sql).2
  | .prepare sql => (e.prepare sql).2
  | call => e.note call

/-- Whether a message belongs to the inside of an answer: it neither reports an error nor says
that the session is ready. -/
def BackendMessage.isPart : BackendMessage → Bool
  | .errorResponse _ | .readyForQuery _ => false
  | _ => true

def BackendMessage.ofStatement : BackendMessage → Bool
  | .rowDescription _ | .dataRow _ | .noData | .commandComplete _ | .noticeResponse _ => true
  | _ => false

theorem BackendMessage.isPart_of_ofStatement {m : BackendMessage} (h : m.ofStatement = true) :
    m.isPart = true := by
  cases m <;> first | rfl | cases h

/-- Whether a session is in a transaction after a statement of this kind succeeded. -/
def SqlKind.leads (inside : Bool) : SqlKind → Bool
  | begin => true
  | commit | rollback => false
  | _ => inside

namespace Session

/-- The engine's statement for one that begins a transaction. -/
def IsBeginning (sql : String) : Prop :=
  ∃ text, SqlKind.ofText text = .begin ∧ sql = Sql.engineBegin text

variable {η : Type}

def Condemned (s : Session η) : Prop :=
  s.inTransaction = true → s.aborted = true

abbrev Working (P : Session η → Prop) (x : RunningIn η α) : Prop :=
  Running.Ensures P x (fun _ => P) P P

/-- So does the same work with its error as a result. -/
theorem Working.run {P : Session η → Prop} {x : RunningIn η α} (h : Working P x) :
    SqlWire.Ensures P (ExceptT.run x) (fun _ => P) fun _ => P := by
  refine SqlWire.Ensures.mono h (fun _ h => h) ?_ fun _ _ h => h
  intro result s h
  cases result with
  | ok a => exact h
  | error report => exact h

theorem orReport_keeps {P : Session η → Prop} (result : Except String α) :
    Working P (orReport result) :=
  Running.Ensures.orReport (fun _ _ h => h) fun _ h => h

variable [Journal η]

/-- One thing that a session does while it runs a statement. Outside a transaction it prepares
only what is free to be prepared there. -/
inductive Act (free : String → Prop) (s : Session η) : Session η → Prop
  | wrote (left : Option Nat) : Act free s { s with writesLeft := left }
  | said (m : BackendMessage) (hm : m.isPart = true) :
      Act free s (s.say (.message m))
  /-- A call that is no execution, which an aborted transaction does not allow. -/
  | asked (call : EngineCall) (hc : ∀ sql, call ≠ .execute sql) (ha : s.aborted = false)
      (hp : ∀ sql, call = .prepare sql → free sql ∨ s.inTransaction = true) :
      Act free s { s with engine := s.engine.make call }
  /-- The engine refused to begin a transaction. -/
  | refused {sql message : String} (hb : IsBeginning sql) (hi : s.inTransaction = false)
      (hr : (s.engine.execute sql).1 = .error message) :
      Act free s { s with engine := (s.engine.execute sql).2 }
  | begun {sql : String} (hb : IsBeginning sql) (hi : s.inTransaction = false)
      (hr : (s.engine.execute sql).1 = .ok ()) :
      Act free s { s with engine := (s.engine.execute sql).2, inTransaction := true }
  /-- The transaction was ended as the client asked; an aborted one was rolled back. -/
  | left {word : String} (hw : IsEnding word) (hi : s.inTransaction = true ∨ s.aborted = true)
      (ha : s.aborted = true → word = "ROLLBACK") : Act free s (s.left word)
  | aborted : Act free s s.abort

abbrev Acts (free : String → Prop) : Session η → Session η → Prop :=
  Relation.ReflTransGen (Act free)

section

variable {free : String → Prop} {t : Session η} {inside : Bool}

omit [Journal η] in
theorem useWrite_acts {P : Session η → Prop}
    (hP : ∀ s left, P s → P { s with writesLeft := left }) :
    Ensures P useWrite (fun _ => P) (fun _ => P) := by
  refine Ensures.get_bind fun s hs => ?_
  rcases s.writesLeft with _ | _ | n
  · exact Ensures.of_eq hs (Ensures.pure fun _ h => h)
  · exact Ensures.of_eq hs (Ensures.throw fun _ h => h)
  · exact Ensures.of_eq hs (Ensures.modify fun s h => hP s _ h)

/-- A message is sent, or the session cannot go on. -/
theorem send_acts {P Q : Session η → Prop} (m : BackendMessage)
    (hP : ∀ s left, P s → P { s with writesLeft := left })
    (hQ : ∀ s, P s → Q (s.say (.message m))) :
    Ensures P (send m) (fun _ => Q) (fun _ => P) := by
  unfold send
  cases m.encode with
  | error e => exact Ensures.throw fun _ h => h
  | ok bytes => exact (useWrite_acts hP).bind fun _ => Ensures.modify hQ

/-- Whether the engine ends the transaction or refuses to, the session has left it. -/
theorem endTransaction_leaves {P E F : Session η → Prop} {Q : Unit → Session η → Prop}
    {word : String} (hQ : ∀ s, P s → Q () (s.left word)) (hE : ∀ s, P s → E (s.left word)) :
    Running.Ensures P (endTransaction word) Q E F := by
  constructor
  intro s hs
  unfold ExceptT.run
  rw [endTransaction_eq]
  cases (s.engine.leave word).1 with
  | ok u => exact hQ s hs
  | error message => exact hE s hs

/-- The predicate is kept by all that a session does to run a statement that is no matter of the
transaction: it writes, it says parts of an answer, and it calls the engine, but has it execute
nothing, nor prepare anything but the statement. -/
structure StreamSafe (sql : String) (P : Session η → Prop) : Prop where
  wrote : ∀ {s} left, P s → P { s with writesLeft := left }
  said : ∀ {s} m, m.ofStatement = true → P s → P (s.say (.message m))
  asked : ∀ {s} call, (∀ text, call ≠ .execute text) → (∀ text, call = .prepare text → text = sql) →
    P s → P { s with engine := s.engine.make call }

namespace StreamSafe

variable {sql : String} {P : Session η → Prop} (hP : StreamSafe sql P)
include hP

theorem say (m : BackendMessage) (hm : m.ofStatement = true) : Working P (surely (send m)) :=
  Running.Ensures.surely (send_acts m (fun _ left h => hP.wrote left h) fun _ h => hP.said m hm h)

/-- The engine is called for something that is no execution. -/
theorem ask {call : Engine → α × Engine} (c : EngineCall) (hc : ∀ text, c ≠ .execute text)
    (hp : ∀ text, c = .prepare text → text = sql) (h : ∀ e, (call e).2 = e.make c) :
    Working P (surely (ask call)) := by
  refine Running.Ensures.surely ⟨fun s hs => ?_⟩
  have := hP.asked c hc hp hs
  rw [← h] at this
  exact this

theorem noteNext (answer : RowAnswer) : Working P (surely (noteNext answer)) :=
  Running.Ensures.surely ⟨fun _ hs => hP.asked (.next answer) (by simp) (by simp) hs⟩

theorem sendRows (source : RowSource) (oids : List TypeOid) (count : Nat)
    (answers : List RowAnswer) : Working P (sendRows source oids count answers) := by
  induction answers generalizing count with
  | nil => exact (hP.noteNext .done).bind fun _ => Running.Ensures.pure fun _ h => h
  | cons answer answers ih =>
      refine (hP.noteNext answer).bind fun _ => ?_
      cases answer with
      | done => exact Running.Ensures.pure fun _ h => h
      | error message => exact Running.Ensures.throw fun _ h => h
      | row cells =>
          refine (orReport_keeps (source.values cells)).bind fun values => ?_
          exact (hP.say _ rfl).bind fun _ => ih (count + 1)

theorem firstRow (source : RowSource) : Working P (firstRow source) := by
  refine (hP.noteNext _).bind fun _ => ?_
  cases source.answers.headD .done with
  | done => exact Running.Ensures.pure fun _ h => h
  | error message => exact Running.Ensures.throw fun _ h => h
  | row cells =>
      exact (orReport_keeps (source.values cells)).bind fun _ => Running.Ensures.pure fun _ h => h

theorem streamRows (params : List Value) (describing : Describing) (source : RowSource) :
    Working P (streamRows sql params describing source) := by
  unfold Session.streamRows
  refine (hP.ask (.query params) (by simp) (by simp) fun _ => rfl).bind fun _ => ?_
  cases source.startError with
  | some message => exact Running.Ensures.throw fun _ h => h
  | none =>
      refine (hP.firstRow source).bind fun first => ?_
      have rows : Working P (do
          let count ← Session.sendRows source (columnOids source.columns first)
            (if first.isSome then 1 else 0) source.answers.tail
          surely (send (.commandComplete (commandTag sql count)))) :=
        (hP.sendRows source _ _ _).bind fun count => hP.say _ rfl
      have described : Working P
          (surely (send (describeColumns source.columns (columnOids source.columns first)))) :=
        hP.say _ rfl
      cases first with
      | none =>
          dsimp only
          split
          · exact described.bind fun _ => rows
          · exact rows
      | some values =>
          have row : Working P
              (surely (sendRow (columnOids source.columns (some values)) values)) :=
            hP.say (.dataRow _) rfl
          dsimp only
          split
          · exact described.bind fun _ => row.bind fun _ => rows
          · exact row.bind fun _ => rows

theorem runChange (params : List Value) (describing : Describing) (rows : Nat)
    (runError : Option String) : Working P (runChange sql params describing rows runError) := by
  unfold Session.runChange
  refine (hP.ask (.step params) (by simp) (by simp) fun _ => rfl).bind fun _ => ?_
  cases runError with
  | some message => exact Running.Ensures.throw fun _ h => h
  | none =>
      have done : Working P (surely (send (.commandComplete (commandTag sql rows)))) :=
        hP.say _ rfl
      dsimp only
      split
      · exact (hP.say _ rfl).bind fun _ => done
      · exact done

theorem streamStatement (params : List Value) (describing : Describing) :
    Working P (streamStatement sql params describing) := by
  have hp : ∀ text, EngineCall.prepare sql = .prepare text → text = sql := by
    intro text he
    cases he
    rfl
  unfold Session.streamStatement
  refine (hP.ask (.prepare sql) (by simp) hp fun _ => rfl).bind fun result => ?_
  refine (orReport_keeps result).bind fun prepared => ?_
  cases prepared with
  | returning source => exact hP.streamRows params describing source
  | changing rows runError => exact hP.runChange params describing rows runError

end StreamSafe

/-- The predicate is kept by all that a session does to begin or to end a transaction: it writes,
it says parts of an answer, it has the engine execute something, and it takes itself to be inside
or outside. -/
structure ControlSafe (P : Session → Prop) : Prop where
  wrote : ∀ {s} left, P s → P { s with writesLeft := left }
  said : ∀ {s} m, m.ofStatement = true → P s → P { s with sent := .message m :: s.sent }
  executed : ∀ {s} sql, P s → P { s with engine := (s.engine.execute sql).2 }
  turned : ∀ {s} inTransaction aborted, P s → P { s with inTransaction, aborted }

namespace ControlSafe

variable {P : Session → Prop} (hP : ControlSafe P)
include hP

theorem say (m : BackendMessage) (hm : m.ofStatement = true) : Working P (surely (send m)) :=
  Running.Ensures.surely (send_acts m (fun _ left h => hP.wrote left h) fun _ h => hP.said m hm h)

theorem left (word : String) {s : Session} (h : P s) : P (s.left word) := by
  refine hP.turned (s := { s with engine := (s.engine.leave word).2 }) false false ?_
  unfold Engine.leave
  dsimp only
  split
  · exact hP.executed "ROLLBACK" (hP.executed word h)
  · exact hP.executed word h

theorem endTransaction (word : String) : Working P (endTransaction word) :=
  endTransaction_leaves (fun _ h => hP.left word h) fun _ h => hP.left word h

theorem runAborted (kind : SqlKind) : Working P (runAborted kind) := by
  unfold Session.runAborted
  split
  · exact Running.Ensures.bind (Q := fun _ _ => False) (Running.Ensures.throw fun _ h => h)
      fun _ => ⟨fun _ h => h.elim⟩
  · exact Running.Ensures.bind (Q := fun _ => P)
      (Running.Ensures.surely (hP.endTransaction "ROLLBACK").run) fun _ => hP.say _ rfl

theorem runBegin (sql : String) : Working P (runBegin sql) := by
  unfold Session.runBegin
  refine Running.Ensures.get_bind fun s hs => Ensures.of_eq (P := P) hs ?_
  split
  · exact (hP.say _ rfl).bind fun _ => hP.say _ rfl
  · have executed : Working P (surely (Session.ask (Engine.execute (Sql.engineBegin sql)))) :=
      Running.Ensures.surely ⟨fun _ h => hP.executed _ h⟩
    refine executed.bind fun result => (orReport_keeps result).bind fun _ => ?_
    exact Running.Ensures.bind (Running.Ensures.modify fun s h => hP.turned true s.aborted h)
      fun _ => hP.say _ rfl

theorem runEnd (word : String) : Working P (runEnd word) := by
  unfold Session.runEnd
  refine Running.Ensures.get_bind fun s hs => Ensures.of_eq (P := P) hs ?_
  split
  · exact (hP.endTransaction word).bind fun _ => hP.say _ rfl
  · exact (hP.say _ rfl).bind fun _ => hP.say _ rfl

end ControlSafe

structure Streaming (free : String → Prop) (inside : Bool) (t s : Session η) : Prop where
  acts : Acts free t s
  healthy : s.aborted = false
  inside : s.inTransaction = inside

theorem streaming_safe {sql : String} (hf : free sql ∨ inside = true) :
    StreamSafe sql (Streaming free inside t) where
  wrote left h := ⟨h.acts.tail (.wrote left), h.healthy, h.inside⟩
  said m hm h :=
    ⟨h.acts.tail (.said m (BackendMessage.isPart_of_ofStatement hm)), h.healthy, h.inside⟩
  asked call hc hp h := by
    refine ⟨h.acts.tail (.asked call hc h.healthy fun text he => ?_), h.healthy, h.inside⟩
    rw [hp text he, h.inside]
    exact hf

def Did (free : String → Prop) (inside : Bool) (t s : Session η) : Prop :=
  Acts free t s ∧ s.inTransaction = inside

def Failed (free : String → Prop) (t s : Session η) : Prop :=
  Acts free t s ∧ Condemned s

theorem say_acts (m : BackendMessage) (hm : m.isPart = true) :
    Running.Ensures (Did free inside t) (surely (send m)) (fun _ => Did free inside t)
      (Failed free t) (Acts free t) := by
  refine Running.Ensures.surely (Ensures.mono (send_acts m (P := Did free inside t)
    (Q := Did free inside t) ?_ ?_) (fun _ h => h) (fun _ _ h => h) fun _ _ h => h.1)
  · exact fun _ left h => ⟨h.1.tail (.wrote left), h.2⟩
  · exact fun _ h => ⟨h.1.tail (.said m hm), h.2⟩

theorem runAborted_acts (kind : SqlKind) :
    Running.Ensures (fun s => Acts free t s ∧ s.aborted = true) (runAborted kind)
      (fun _ => Did free (kind.leads inside) t) (Failed free t) (Acts free t) := by
  unfold runAborted
  by_cases hk : kind.endsTransaction = true
  · have hl : kind.leads inside = false := by cases kind <;> first | rfl | cases hk
    simp only [hk, hl]
    refine Running.Ensures.bind (Q := fun _ => Did free false t) ?_ fun _ => say_acts _ rfl
    refine Running.Ensures.surely ⟨fun s hs => ?_⟩
    have he : (endTransaction "ROLLBACK").run s = _ := endTransaction_eq "ROLLBACK" s
    rw [he]
    exact ⟨hs.1.tail (.left (.inr rfl) (.inr hs.2) fun _ => rfl), rfl⟩
  · simp only [hk]
    exact Running.Ensures.throw fun s hs => ⟨hs.1, fun _ => hs.2⟩

theorem runBegin_acts {sql : String} (hk : SqlKind.ofText sql = .begin) :
    Running.Ensures (Acts free t) (runBegin sql) (fun _ => Did free true t) (Failed free t)
      (Acts free t) := by
  have hb : IsBeginning (Sql.engineBegin sql) := ⟨sql, hk, rfl⟩
  unfold runBegin
  refine Running.Ensures.get_bind fun s hs => ?_
  by_cases hi : s.inTransaction = true
  · rw [if_pos hi]
    exact Running.Ensures.bind ((say_acts _ rfl).mono (fun _ h => h ▸ ⟨hs, hi⟩) (fun _ _ h => h)
      (fun _ h => h) fun _ h => h) fun _ => say_acts _ rfl
  · rw [if_neg hi]
    have hi : s.inTransaction = false := by simpa using hi
    -- the engine begins, or the session stays outside
    refine Running.Ensures.bind (Q := fun result s' =>
      s' = { s with engine := (s.engine.execute (Sql.engineBegin sql)).2 } ∧
        result = (s.engine.execute (Sql.engineBegin sql)).1) ?_ fun result => ?_
    · refine Running.Ensures.surely ⟨?_⟩
      intro _ h
      subst h
      exact ⟨rfl, rfl⟩
    · cases result with
      | error message =>
          refine Running.Ensures.bind (Q := fun _ _ => False) (Running.Ensures.throw ?_)
            fun _ => ⟨fun _ h => h.elim⟩
          rintro _ ⟨rfl, hr⟩
          exact ⟨hs.tail (.refused hb hi hr.symm), fun h => by rw [hi] at h; cases h⟩
      | ok u =>
          refine Running.Ensures.bind (Q := fun _ s' => s' =
              { s with engine := (s.engine.execute (Sql.engineBegin sql)).2 } ∧
            .ok () = (s.engine.execute (Sql.engineBegin sql)).1) (Running.Ensures.pure ?_)
            fun _ => ?_
          · exact fun _ h => h
          · refine Running.Ensures.bind (Running.Ensures.modify ?_) fun _ => say_acts _ rfl
            rintro _ ⟨rfl, hr⟩
            exact ⟨hs.tail (.begun hb hi hr.symm), rfl⟩

theorem runEnd_acts {word : String} (hw : IsEnding word) :
    Running.Ensures (fun s => Acts free t s ∧ s.aborted = false) (runEnd word)
      (fun _ => Did free false t) (Failed free t) (Acts free t) := by
  unfold runEnd
  refine Running.Ensures.get_bind fun s hp => ?_
  obtain ⟨hs, ha⟩ := hp
  by_cases hi : s.inTransaction = true
  · rw [if_pos hi]
    have hl : Acts free t (s.left word) :=
      hs.tail (.left hw (.inl hi) fun h => by rw [ha] at h; cases h)
    refine Running.Ensures.bind (Q := fun _ => Did free false t) (endTransaction_leaves ?_ ?_)
      fun _ => say_acts _ rfl
    · rintro _ rfl
      exact ⟨hl, rfl⟩
    · rintro _ rfl
      exact ⟨hl, fun h => by cases h⟩
  · rw [if_neg hi]
    have hi : s.inTransaction = false := by simpa using hi
    exact Running.Ensures.bind ((say_acts _ rfl).mono (fun _ h => h ▸ ⟨hs, hi⟩) (fun _ _ h => h)
      (fun _ h => h) fun _ h => h) fun _ => say_acts _ rfl

omit [Journal η] in
/-- Work whose error aborts the transaction before it is reported. -/
theorem abort_reports {P E E' F : Session η → Prop} {Q : Unit → Session η → Prop}
    {x : RunningIn η Unit} (hx : Running.Ensures P x Q E' F) (hE : ∀ s, E' s → E s.abort) :
    Running.Ensures P (tryCatch x fun report => do
      modify abort
      throw report) Q E F :=
  Running.Ensures.tryCatch hx fun _ =>
    Running.Ensures.bind (Running.Ensures.modify (Q := fun _ => E) hE)
      fun _ => Running.Ensures.throw fun _ h => h

/-- A statement that is no matter of the transaction is run as such unless the transaction is
aborted. -/
theorem runStatement_streamed {E E' F : Session η → Prop} {Q : Unit → Session η → Prop}
    {sql : String} {params : List Value} {describing : Describing} (ha : t.aborted = false)
    (hk : (SqlKind.ofText sql).isTransactionControl = false)
    (hx : Running.Ensures (· = t) (streamStatement sql params describing) Q E' F)
    (hE : ∀ s, E' s → E s.abort) :
    Running.Ensures (· = t) (runStatement sql params describing) Q E F := by
  unfold runStatement
  refine Running.Ensures.get_bind fun s hs => ?_
  subst hs
  rw [if_neg (by simp [ha])]
  have streamed := abort_reports hx hE
  cases hc : SqlKind.ofText sql with
  | begin | commit | rollback => simp [hc, SqlKind.isTransactionControl] at hk
  | _ => exact streamed

/-- What is kept by either way to run a statement is kept when it is run. -/
theorem runStatement_keeps {P : Session → Prop} {sql : String} (hs : StreamSafe sql P)
    (hc : ControlSafe P) (params : List Value) (describing : Describing) :
    Working P (runStatement sql params describing) := by
  unfold runStatement
  refine Running.Ensures.get_bind fun s h => Ensures.of_eq (P := P) h ?_
  split
  · exact hc.runAborted _
  · have streamed := abort_reports (E := P) (hs.streamStatement params describing)
      fun s h => hc.turned s.inTransaction (s.aborted || s.inTransaction) h
    cases SqlKind.ofText sql with
    | begin => exact hc.runBegin sql
    | commit => exact hc.runEnd "COMMIT"
    | rollback => exact hc.runEnd "ROLLBACK"
    | _ => exact streamed

/-- Whatever a statement is, it is run by such acts. If it succeeds, its kind tells whether the
session is in a transaction; if it fails, the session cannot commit. -/
theorem runStatement_acts {sql : String}
    (hf : (SqlKind.ofText sql).isTransactionControl = true ∨ free sql ∨ inside = true)
    (params : List Value) (describing : Describing) :
    Running.Ensures (Did free inside t) (runStatement sql params describing)
      (fun _ => Did free ((SqlKind.ofText sql).leads inside) t) (Failed free t)
      (Acts free t) := by
  unfold runStatement
  refine Running.Ensures.get_bind fun s hs => ?_
  have of_s {P : Session η → Prop} (h : P s) : ∀ s', s' = s → P s' := fun _ he => he ▸ h
  by_cases ha : s.aborted = true
  · rw [if_pos ha]
    exact (runAborted_acts _).mono (of_s ⟨hs.1, ha⟩) (fun _ _ h => h) (fun _ h => h) fun _ h => h
  · rw [if_neg ha]
    have ha : s.aborted = false := by simpa using ha
    have streamed (hf : free sql ∨ inside = true) : Running.Ensures (· = s)
        (tryCatch (streamStatement sql params describing) fun report => do
          modify abort
          throw report) (fun _ => Did free inside t) (Failed free t) (Acts free t) := by
      refine abort_reports (((streaming_safe hf).streamStatement params describing).mono
        (of_s ⟨hs.1, ha, hs.2⟩) (fun _ _ h => ⟨h.acts, h.inside⟩) (fun _ h => h) fun _ h => h.acts)
        ?_
      exact fun s h => ⟨h.acts.tail .aborted, fun hi => Bool.or_eq_true_iff.2 (.inr hi)⟩
    cases hk : SqlKind.ofText sql with
    | begin =>
        exact (runBegin_acts hk).mono (of_s hs.1) (fun _ _ h => h) (fun _ h => h) fun _ h => h
    | commit =>
        exact (runEnd_acts (.inl rfl)).mono (of_s ⟨hs.1, ha⟩) (fun _ _ h => h) (fun _ h => h)
          fun _ h => h
    | rollback =>
        exact (runEnd_acts (.inr rfl)).mono (of_s ⟨hs.1, ha⟩) (fun _ _ h => h) (fun _ h => h)
          fun _ h => h
    | _ => exact streamed (hf.resolve_left (by simp [hk, SqlKind.isTransactionControl]))

/-- The acts alone, where it does not matter what is prepared outside a transaction. -/
theorem runStatement_does (sql : String) (params : List Value) (describing : Describing) :
    Running.Ensures (· = t) (runStatement sql params describing)
      (fun _ => Acts (fun _ => True) t) (Failed (fun _ => True) t) (Acts (fun _ => True) t) := by
  have run : Running.Ensures (Did (fun _ => True) t.inTransaction t)
      (runStatement sql params describing) _ _ _ := runStatement_acts (.inr (.inl trivial)) _ _
  refine run.mono ?_ (fun _ _ h => h.1) (fun _ h => h) fun _ h => h
  rintro _ rfl
  exact ⟨.refl, rfl⟩

end

end Session

end SqlWire
