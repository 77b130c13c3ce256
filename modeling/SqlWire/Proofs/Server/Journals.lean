import SqlWire.Proofs.Coupled
import SqlWire.Proofs.Server.Statements

/-!
# Journals

A session may keep a journal: what it said and which transactions it was to end, each with the
engine as it was then. The journal shows in which order the session spoke and called its engine.
It is only ever written: a session that keeps none does the same.
-/

namespace SqlWire

instance : Journal (List Remark) where
  note := List.cons

def Journal.noteAll {η : Type} [Journal η] (remarks : List Remark) (journal : η) : η :=
  remarks.foldr note journal

@[simp] theorem Journal.noteAll_list (remarks journal : List Remark) :
    noteAll remarks journal = remarks ++ journal := by
  induction remarks with
  | nil => rfl
  | cons remark remarks ih => exact congrArg (remark :: ·) ih

theorem Journal.noteAll_append {η : Type} [Journal η] (new old : List Remark) (journal : η) :
    noteAll (new ++ old) journal = noteAll new (noteAll old journal) :=
  List.foldr_append

namespace Session

abbrev Journaled := Session (List Remark)

def journaled (s : Session) : Journaled :=
  { s with journal := [] }

section

variable {η : Type}

def forget (s : Session η) : Session :=
  { s with journal := () }

def Alike (s : Session η) (t : Session) : Prop :=
  s.forget = t

/-- The work comes to the same with a journal and without. -/
abbrev Unmoved (x : ServingIn η α) (y : Serving α) : Prop :=
  Coupled Never Never Alike x y (fun _ => Alike) fun _ => Alike

namespace Unmoved

variable {α β : Type}

theorem pure (a : α) : Unmoved (Pure.pure a : ServingIn η α) (Pure.pure a) :=
  Coupled.pure fun _ _ h => h

theorem throw (e : ServerError) :
    Unmoved (MonadExcept.throw e : ServingIn η α) (MonadExcept.throw e) :=
  Coupled.throw fun _ _ h => h

theorem modified {f : Session η → Session η} {g : Session → Session}
    (h : ∀ s, (f s).forget = g s.forget) :
    Unmoved (modify f : ServingIn η Unit) (modify g) := by
  refine Coupled.modify fun s t hs => ?_
  subst hs
  exact h s

theorem modify_bind {f : Session η → Session η} {g : Session → Session}
    {x : Unit → ServingIn η α} {y : Unit → Serving α} (h : ∀ s, (f s).forget = g s.forget)
    (hx : Unmoved (x ()) (y ())) :
    Unmoved ((modify f : ServingIn η Unit) >>= x) ((modify g : Serving Unit) >>= y) :=
  (modified h).bind fun _ => hx

theorem ite {p : Prop} [Decidable p] {x x' : ServingIn η α} {y y' : Serving α}
    (h : Unmoved x y) (h' : Unmoved x' y') :
    Unmoved (if p then x else x') (if p then y else y') := by
  split
  · exact h
  · exact h'

/-- The work looks at the session, but not at the journal. -/
theorem get_bind {f : Session η → ServingIn η α} {g : Session → Serving α}
    (h : ∀ s, Unmoved (f s) (g s.forget)) : Unmoved (get >>= f) (get >>= g) := by
  refine Coupled.get_bind fun s t hs => ?_
  subst hs
  exact Coupled.of_eq rfl (h s)

/-- Work that an error of the statement can stop goes on with its result. -/
theorem run_bind {x : RunningIn η α} {y : Running α} {f : α → RunningIn η β} {g : α → Running β}
    (hx : Unmoved x.run y.run) (hf : ∀ a, Unmoved (f a).run (g a).run) :
    Unmoved (x >>= f).run (y >>= g).run := by
  refine Coupled.bind hx fun r => ?_
  cases r with
  | ok a => exact hf a
  | error report => exact pure _

theorem run_get_bind {f : Session η → RunningIn η α} {g : Session → Running α}
    (h : ∀ s, Unmoved (f s).run (g s.forget).run) : Unmoved (get >>= f).run (get >>= g).run :=
  get_bind h

theorem run_modify_bind {f : Session η → Session η} {g : Session → Session}
    {x : Unit → RunningIn η α} {y : Unit → Running α} (h : ∀ s, (f s).forget = g s.forget)
    (hx : Unmoved (x ()).run (y ()).run) :
    Unmoved ((modify f : RunningIn η Unit) >>= x).run
      ((modify g : Running Unit) >>= y).run :=
  modify_bind h hx

theorem surely {x : ServingIn η α} {y : Serving α} (h : Unmoved x y) :
    Unmoved (surely x).run (surely y).run :=
  h.bind fun a => pure (Except.ok a)

theorem orReport (result : Except String α) :
    Unmoved (orReport result : RunningIn η α).run (orReport result : Running α).run := by
  cases result with
  | ok a => exact pure _
  | error message => exact pure _

end Unmoved

/-! ## What a session does -/

variable [Journal η]

omit [Journal η] in
theorem useWrite_unmoved : Unmoved (useWrite : ServingIn η Unit) useWrite := by
  refine Unmoved.get_bind fun s => ?_
  dsimp only [forget]
  rcases s.writesLeft with _ | _ | n
  · exact .pure _
  · exact .throw _
  · exact .modified fun _ => rfl

theorem send_unmoved (m : BackendMessage) : Unmoved (send m : ServingIn η Unit) (send m) := by
  unfold send
  cases m.encode with
  | error e => exact .throw _
  | ok bytes => exact useWrite_unmoved.bind fun _ => Unmoved.modified fun _ => rfl

omit [Journal η] in
theorem ask_unmoved (call : Engine → α × Engine) :
    Unmoved (surely (ask call) : RunningIn η α).run (surely (ask call) : Running α).run := by
  refine Unmoved.surely ⟨fun s t hs => ?_⟩
  subst hs
  exact .ok rfl

theorem say_unmoved (m : BackendMessage) :
    Unmoved (surely (send m) : RunningIn η Unit).run (surely (send m) : Running Unit).run :=
  .surely (send_unmoved m)

theorem ready_unmoved : Unmoved (ready : ServingIn η Unit) ready :=
  .get_bind fun _ => (send_unmoved _).bind fun _ => useWrite_unmoved

theorem endTransaction_unmoved (word : String) :
    Unmoved (endTransaction word : RunningIn η Unit).run (endTransaction word).run := by
  refine .run_modify_bind (fun _ => rfl) (.run_bind (ask_unmoved _) fun result => ?_)
  refine .run_modify_bind (fun _ => rfl) (.run_get_bind fun s => ?_)
  dsimp only [forget]
  split
  · exact .run_bind (ask_unmoved _) fun _ => .orReport result
  · exact .orReport result

omit [Journal η] in
theorem noteNext_unmoved (answer : RowAnswer) :
    Unmoved (surely (noteNext answer) : RunningIn η Unit).run
      (surely (noteNext answer) : Running Unit).run :=
  .surely (.modified fun _ => rfl)

theorem sendRows_unmoved (source : RowSource) (oids : List TypeOid) (count : Nat)
    (answers : List RowAnswer) :
    Unmoved (sendRows source oids count answers : RunningIn η Nat).run
      (sendRows source oids count answers).run := by
  induction answers generalizing count with
  | nil => exact .run_bind (noteNext_unmoved _) fun _ => Unmoved.pure _
  | cons answer answers ih =>
      refine .run_bind (noteNext_unmoved _) fun _ => ?_
      cases answer with
      | done => exact .pure _
      | error message => exact .pure _
      | row cells =>
          exact .run_bind (.orReport _) fun _ => .run_bind (say_unmoved _) fun _ => ih (count + 1)

omit [Journal η] in
theorem firstRow_unmoved (source : RowSource) :
    Unmoved (firstRow source : RunningIn η (Option (List Value))).run (firstRow source).run := by
  refine .run_bind (noteNext_unmoved _) fun _ => ?_
  cases source.answers.headD .done with
  | done => exact .pure _
  | error message => exact .pure _
  | row cells => exact .run_bind (.orReport _) fun _ => Unmoved.pure _

theorem streamRows_unmoved (sql : String) (params : List Value) (describing : Describing)
    (source : RowSource) :
    Unmoved (streamRows sql params describing source : RunningIn η Unit).run
      (streamRows sql params describing source).run := by
  refine .run_bind (ask_unmoved _) fun _ => ?_
  cases source.startError with
  | some message => exact .pure _
  | none =>
      refine .run_bind (firstRow_unmoved source) fun first => ?_
      have rows : Unmoved (do
          let count ← sendRows source (columnOids source.columns first)
            (if first.isSome then 1 else 0) source.answers.tail
          surely (send (.commandComplete (commandTag sql count))) : RunningIn η Unit).run
          (do
            let count ← sendRows source (columnOids source.columns first)
              (if first.isSome then 1 else 0) source.answers.tail
            surely (send (.commandComplete (commandTag sql count))) : Running Unit).run :=
        .run_bind (sendRows_unmoved _ _ _ _) fun _ => say_unmoved _
      cases first with
      | none =>
          dsimp only
          split
          · exact .run_bind (say_unmoved _) fun _ => rows
          · exact rows
      | some values =>
          dsimp only
          split
          · exact .run_bind (say_unmoved _) fun _ => .run_bind (say_unmoved _) fun _ => rows
          · exact .run_bind (say_unmoved _) fun _ => rows

theorem runChange_unmoved (sql : String) (params : List Value) (describing : Describing)
    (rows : Nat) (runError : Option String) :
    Unmoved (runChange sql params describing rows runError : RunningIn η Unit).run
      (runChange sql params describing rows runError).run := by
  refine .run_bind (ask_unmoved _) fun _ => ?_
  cases runError with
  | some message => exact .pure _
  | none =>
      dsimp only
      split
      · exact .run_bind (say_unmoved _) fun _ => say_unmoved _
      · exact say_unmoved _

theorem streamStatement_unmoved (sql : String) (params : List Value) (describing : Describing) :
    Unmoved (streamStatement sql params describing : RunningIn η Unit).run
      (streamStatement sql params describing).run := by
  refine .run_bind (ask_unmoved _) fun result => .run_bind (.orReport result) fun prepared => ?_
  cases prepared with
  | returning source => exact streamRows_unmoved sql params describing source
  | changing rows runError => exact runChange_unmoved sql params describing rows runError

theorem runAborted_unmoved (kind : SqlKind) :
    Unmoved (runAborted kind : RunningIn η Unit).run (runAborted kind).run := by
  unfold runAborted
  split
  · exact .run_bind (.pure _) fun _ =>
      .run_bind (.surely (endTransaction_unmoved _)) fun _ => say_unmoved _
  · exact .run_bind (.surely (endTransaction_unmoved _)) fun _ => say_unmoved _

theorem runBegin_unmoved (sql : String) :
    Unmoved (runBegin sql : RunningIn η Unit).run (runBegin sql).run := by
  refine .run_get_bind fun s => ?_
  dsimp only [forget]
  split
  · exact .run_bind (say_unmoved _) fun _ => say_unmoved _
  · refine .run_bind (ask_unmoved _) fun result => .run_bind (.orReport result) fun _ => ?_
    exact .run_modify_bind (fun _ => rfl) (say_unmoved _)

theorem runEnd_unmoved (word : String) :
    Unmoved (runEnd word : RunningIn η Unit).run (runEnd word).run := by
  refine .run_get_bind fun s => ?_
  dsimp only [forget]
  split
  · exact .run_bind (endTransaction_unmoved word) fun _ => say_unmoved _
  · exact .run_bind (say_unmoved _) fun _ => say_unmoved _

theorem runStatement_unmoved (sql : String) (params : List Value) (describing : Describing) :
    Unmoved (runStatement sql params describing : RunningIn η Unit).run
      (runStatement sql params describing).run := by
  refine .run_get_bind fun s => ?_
  dsimp only [forget]
  split
  · exact runAborted_unmoved _
  · have streamed : Unmoved (tryCatch (streamStatement sql params describing) fun report => do
          modify abort
          throw report : RunningIn η Unit).run
        (tryCatch (streamStatement sql params describing) fun report => do
          modify abort
          throw report : Running Unit).run := by
      refine (streamStatement_unmoved sql params describing).bind fun r => ?_
      cases r with
      | ok u => exact Unmoved.pure _
      | error report => exact Unmoved.run_modify_bind (fun _ => rfl) (Unmoved.pure _)
    cases SqlKind.ofText sql with
    | begin => exact runBegin_unmoved sql
    | commit => exact runEnd_unmoved "COMMIT"
    | rollback => exact runEnd_unmoved "ROLLBACK"
    | _ => exact streamed

theorem runQuery_unmoved (statements : List String) :
    Unmoved (runQuery statements : ServingIn η Unit) (runQuery statements) := by
  induction statements with
  | nil => exact .pure _
  | cons sql statements ih =>
      refine (runStatement_unmoved sql [] .simple).bind fun result => ?_
      cases result with
      | ok u => exact ih
      | error report => exact send_unmoved _

theorem simpleQuery_unmoved (sql : String) :
    Unmoved (simpleQuery sql : ServingIn η Unit) (simpleQuery sql) := by
  unfold simpleQuery
  dsimp only
  split
  · exact send_unmoved _
  · exact runQuery_unmoved _

theorem extendedError_unmoved (report : Diagnostic) :
    Unmoved (extendedError report : ServingIn η Unit) (extendedError report) :=
  Unmoved.modify_bind (fun _ => rfl) <| send_unmoved _

theorem bind_unmoved (params : List (Option Bytes)) :
    Unmoved (bind params : ServingIn η Unit) (bind params) := by
  refine .get_bind fun s => ?_
  dsimp only [forget]
  cases s.prepared with
  | none => exact extendedError_unmoved _
  | some p =>
      dsimp only
      cases bindParams p.paramTypes params with
      | error e => exact extendedError_unmoved _
      | ok values => exact Unmoved.modify_bind (fun _ => rfl) <| send_unmoved _

theorem describe_unmoved (target : DescribeTarget) :
    Unmoved (describe target : ServingIn η Unit) (describe target) := by
  refine .get_bind fun s => ?_
  dsimp only [forget]
  cases target with
  | statement => exact extendedError_unmoved _
  | portal =>
      cases s.portal with
      | none => exact extendedError_unmoved _
      | some p => exact .modified fun _ => rfl

theorem executePortal_unmoved : Unmoved (executePortal : ServingIn η Unit) executePortal := by
  refine .get_bind fun s => ?_
  dsimp only [forget]
  cases s.portal with
  | none => exact extendedError_unmoved _
  | some p =>
      refine Unmoved.modify_bind (fun _ => rfl) <| ?_
      split
      · exact send_unmoved _
      · split
        · exact extendedError_unmoved _
        · refine (runStatement_unmoved _ _ _).bind fun result => ?_
          cases result with
          | ok u => exact Unmoved.pure _
          | error report => exact extendedError_unmoved _

theorem handle_unmoved (m : FrontendMessage) :
    Unmoved (handle m : ServingIn η Bool) (handle m) := by
  have goes {x : ServingIn η Unit} {y : Serving Unit} (h : Unmoved x y) :
      Unmoved (x >>= fun _ => pure true) (y >>= fun _ => pure true) :=
    h.bind fun _ => Unmoved.pure _
  refine .get_bind fun s => ?_
  dsimp only [forget]
  split
  · exact .pure _
  · cases m with
    | query sql => exact (simpleQuery_unmoved sql).bind fun _ => goes ready_unmoved
    | parse name sql types =>
        exact Unmoved.modify_bind (fun _ => rfl) <| goes (send_unmoved _)
    | bind portal statement params => exact goes (bind_unmoved params)
    | describe target name => exact goes (describe_unmoved target)
    | execute portal rows => exact goes executePortal_unmoved
    | sync => exact Unmoved.modify_bind (fun _ => rfl) <| goes ready_unmoved
    | flush => exact goes useWrite_unmoved
    | terminate => exact .pure _
    | sslRequest | startup | password =>
        exact (send_unmoved _).bind fun _ => goes useWrite_unmoved

theorem welcome_unmoved (user : String) (applicationName : Option String) :
    Unmoved (welcome user applicationName : ServingIn η Bool) (welcome user applicationName) := by
  have rest : Unmoved (do
      let s ← get
      send (.backendKeyData s.processId s.secretKey)
      ready
      modify fun s => { s with stage := .serving }
      return true : ServingIn η Bool)
      (do
        let s ← get
        send (.backendKeyData s.processId s.secretKey)
        ready
        modify fun s => { s with stage := .serving }
        return true : Serving Bool) := by
    refine .get_bind fun s => (send_unmoved _).bind fun _ => ready_unmoved.bind fun _ => ?_
    exact Unmoved.modify_bind (fun _ => rfl) <| Unmoved.pure _
  refine (send_unmoved _).bind fun _ => (send_unmoved _).bind fun _ => ?_
  refine (send_unmoved _).bind fun _ => (send_unmoved _).bind fun _ => ?_
  cases applicationName with
  | none => exact rest
  | some name => exact (send_unmoved _).bind fun _ => rest

theorem meet_unmoved (m : FrontendMessage) : Unmoved (meet m : ServingIn η Bool) (meet m) := by
  cases m with
  | sslRequest =>
      refine useWrite_unmoved.bind fun _ => Unmoved.modify_bind (fun _ => rfl) <| ?_
      exact useWrite_unmoved.bind fun _ => Unmoved.pure _
  | startup version params =>
      refine .get_bind fun s => ?_
      dsimp only [forget]
      split
      · refine (send_unmoved _).bind fun _ => useWrite_unmoved.bind fun _ => ?_
        exact Unmoved.modify_bind (fun _ => rfl) <| Unmoved.pure _
      · exact welcome_unmoved _ _
  | _ => exact .pure _

theorem checkPassword_unmoved (user : String) (applicationName : Option String)
    (m : FrontendMessage) :
    Unmoved (checkPassword user applicationName m : ServingIn η Bool)
      (checkPassword user applicationName m) := by
  refine .get_bind fun s => .ite (welcome_unmoved _ _) ?_
  exact (send_unmoved _).bind fun _ => useWrite_unmoved.bind fun _ => Unmoved.pure _

/-! ## Whole sessions -/

omit [Journal η] in
theorem forget_finish (error : Option ServerError) (s : Session η) :
    (s.finish error).forget = s.forget.finish error := by
  cases hi : s.inTransaction with
  | true => simp [finish, forget, hi]
  | false => simp [finish, forget, hi]

omit [Journal η] in
theorem forget_after {x : ServingIn η Bool} {y : Serving Bool} (h : Unmoved x y) (s : Session η) :
    (s.after x).forget = s.forget.after y := by
  have ends := h.run s s.forget rfl
  unfold after
  generalize x s = r at ends ⊢
  generalize y s.forget = r' at ends ⊢
  cases ends with
  | @ok go s t hs =>
      subst hs
      cases go with
      | true => rfl
      | false => exact forget_finish none s
  | @error e s t hs =>
      subst hs
      exact forget_finish (some e) s
  | first h => exact h.elim
  | second h => exact h.elim

theorem forget_takeIn (read : Except WireError FrontendMessage) (s : Session η) :
    (s.takeIn read).forget = s.forget.takeIn read := by
  have stage : s.forget.stage = s.stage := rfl
  cases read with
  | error e => exact forget_finish _ s
  | ok m =>
      unfold takeIn
      dsimp only
      rw [stage]
      cases s.stage with
      | startup => exact forget_after (meet_unmoved m) s
      | password user applicationName =>
          exact forget_after (checkPassword_unmoved user applicationName m) s
      | serving => exact forget_after (handle_unmoved m) s
      | ended error => rfl

theorem forget_serve (s : Session η) (buffer : Bytes) :
    (s.serve buffer).map forget id = s.forget.serve buffer := by
  have next (t : Session η) (buffer : Bytes) : t.forget.nextMessage buffer = t.nextMessage buffer :=
    rfl
  fun_induction serve s buffer with
  | case1 s buffer e hn =>
      rw [serve]
      split
      · next h =>
          rw [next, hn] at h
          cases h
          exact congrArg (·, buffer) (forget_finish _ s)
      · next h => rw [next, hn] at h; cases h
      · next h => rw [next, hn] at h; cases h
  | case2 s buffer hn =>
      rw [serve]
      split
      · next h => rw [next, hn] at h; cases h
      · rfl
      · next h => rw [next, hn] at h; cases h
  | case3 s buffer m rest hn ih =>
      rw [ih, forget_takeIn, serve.eq_def s.forget]
      split
      · next h => rw [next, hn] at h; cases h
      · next h => rw [next, hn] at h; cases h
      · next h =>
          rw [next, hn] at h
          cases h
          rfl

theorem forget_serveChunks (s : Session η) (buffer : Bytes) (chunks : List Bytes) :
    (s.serveChunks buffer chunks).map forget id = s.forget.serveChunks buffer chunks := by
  induction chunks generalizing s buffer with
  | nil => rfl
  | cons chunk chunks ih =>
      rw [serveChunks, serveChunks, ← forget_serve]
      exact ih _ _

omit [Journal η] in
theorem forget_hangUp (s : Session η) : s.hangUp.forget = s.forget.hangUp := by
  have stage : s.forget.stage = s.stage := rfl
  unfold hangUp
  rw [stage]
  cases s.stage with
  | ended error => rfl
  | _ => exact forget_finish none s

/-- A session that keeps a journal comes to the same as one that keeps none. -/
theorem forget_run (s : Session η) (chunks : List Bytes) :
    (s.run chunks).forget = s.forget.run chunks := by
  unfold run
  rw [forget_hangUp, ← forget_serveChunks]
  rfl

end

end Session

end SqlWire
