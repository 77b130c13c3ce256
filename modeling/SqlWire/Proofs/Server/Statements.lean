import SqlWire.Proofs.Server.Grammar
import SqlWire.Proofs.Triples
import SqlWire.Server.Session

/-!
# What a session sends while it runs a statement

`Session.Trail` follows a session from one state to another together with the phase of its
answer. A statement that is not about the transaction leaves a trail from `Phase.opening` or
`Phase.between` to `Phase.between`; if it fails, the trail ends where an error can be reported.
-/

namespace SqlWire

namespace Engine

def lastExecuted? (e : Engine) : Option String :=
  e.calls.findSome? fun
    | .execute sql => some sql
    | _ => none

@[simp] theorem lastExecuted_execute (e : Engine) (sql : String) :
    (e.execute sql).2.lastExecuted? = some sql := by
  unfold execute answer
  split
  · next heq =>
      split at heq <;> cases heq
      simp [lastExecuted?, note]
  · next heq =>
      split at heq <;> cases heq <;> simp [lastExecuted?, note]

theorem lastExecuted_prepare (e : Engine) (sql : String) :
    (e.prepare sql).2.lastExecuted? = e.lastExecuted? := by
  unfold prepare answer
  split
  · next heq =>
      split at heq <;> cases heq
      simp [lastExecuted?, note]
  · next heq =>
      split at heq <;> cases heq <;> simp [lastExecuted?, note]
  · next heq =>
      split at heq <;> cases heq
      split <;> simp [lastExecuted?, note]

end Engine

section

variable {η α β : Type}

theorem Running.bind_apply (x : RunningIn η α) (f : α → RunningIn η β) (s : Session η) :
    (x >>= f) s = match x s with
      | (.ok (.ok a), s') => f a s'
      | (.ok (.error d), s') => (.ok (.error d), s')
      | (.error e, s') => (.error e, s') := by
  have h : (x >>= f) s = _ := SqlWire.bind_apply (ExceptT.run x) (ExceptT.bindCont f) s
  rw [h]
  unfold ExceptT.run
  rcases x s with ⟨_ | _ | _, _⟩ <;> rfl

theorem Running.get_apply (s : Session η) :
    (get : RunningIn η (Session η)) s = (.ok (.ok s), s) := rfl

theorem Running.modify_apply (f : Session η → Session η) (s : Session η) :
    (modify f : RunningIn η Unit) s = (.ok (.ok ()), f s) := rfl

theorem Session.surely_ask_apply (call : Engine → α × Engine) (s : Session η) :
    (surely (ask call) : RunningIn η α) s =
      (.ok (.ok (call s.engine).1), { s with engine := (call s.engine).2 }) := rfl

/-- Work that a statement's error can stop, begun in `P`, ends in `Q` with a result, in `E` with
a report, or in `F` when the session itself cannot go on. -/
def Running.Ensures (P : Session η → Prop) (x : RunningIn η α) (Q : α → Session η → Prop)
    (E F : Session η → Prop) : Prop :=
  SqlWire.Ensures P (ExceptT.run x)
    (fun r s => match r with
      | .ok a => Q a s
      | .error _ => E s)
    (fun _ s => F s)

end

namespace Running.Ensures

variable {η α β : Type} {P P' : Session η → Prop} {Q Q' : α → Session η → Prop}
  {R : β → Session η → Prop} {E E' F F' : Session η → Prop} {x : RunningIn η α}
  {f : α → RunningIn η β}

theorem bind (hx : Running.Ensures P x Q E F) (hf : ∀ a, Running.Ensures (Q a) (f a) R E F) :
    Running.Ensures P (x >>= f) R E F := by
  refine SqlWire.Ensures.bind hx fun r => ?_
  cases r with
  | ok a => exact hf a
  | error d => exact SqlWire.Ensures.pure fun _ h => h

theorem pure {a : α} (h : ∀ s, P s → Q a s) : Running.Ensures P (Pure.pure a) Q E F := ⟨h⟩

theorem throw {d : Diagnostic} (h : ∀ s, P s → E s) :
    Running.Ensures P (MonadExcept.throw d : RunningIn η α) Q E F := ⟨h⟩

/-- Work that no error of a statement can stop. -/
theorem surely {y : ServingIn η α} (h : SqlWire.Ensures P y Q fun _ s => F s) :
    Running.Ensures P (Session.surely y) Q E F :=
  SqlWire.Ensures.bind h fun _ => SqlWire.Ensures.pure fun _ h => h

theorem mono (h : Running.Ensures P x Q E F) (hP : ∀ s, P' s → P s) (hQ : ∀ a s, Q a s → Q' a s)
    (hE : ∀ s, E s → E' s) (hF : ∀ s, F s → F' s) : Running.Ensures P' x Q' E' F' := by
  refine SqlWire.Ensures.mono h hP (fun r s => ?_) fun _ => hF
  cases r with
  | ok a => exact hQ a s
  | error d => exact hE s

theorem get_bind {f : Session η → RunningIn η α}
    (h : ∀ t, P t → Running.Ensures (· = t) (f t) Q E F) :
    Running.Ensures P (get >>= f) Q E F :=
  ⟨fun s hs => (h s hs).run s rfl⟩

theorem modify {g : Session η → Session η} {Q : Unit → Session η → Prop}
    (h : ∀ s, P s → Q () (g s)) : Running.Ensures P (modify g : RunningIn η Unit) Q E F := ⟨h⟩

theorem tryCatch {handler : Diagnostic → RunningIn η α} (hx : Running.Ensures P x Q E' F)
    (hh : ∀ d, Running.Ensures E' (handler d) Q E F) :
    Running.Ensures P (MonadExcept.tryCatch x handler) Q E F := by
  refine SqlWire.Ensures.bind hx fun r => ?_
  cases r with
  | ok a => exact SqlWire.Ensures.pure fun _ h => h
  | error d => exact hh d

/-- What holds at the end in any case holds of the session that is left. -/
theorem state {R : Session η → Prop} (h : Running.Ensures P x (fun _ => R) R R) {s : Session η}
    (hs : P s) : R (x s).2 := by
  have ends := SqlWire.Ensures.run h s hs
  unfold ExceptT.run at ends
  rcases hr : x s with ⟨_ | _ | _, u⟩
  all_goals
    rw [hr] at ends
    exact ends

/-- A fact that no state bears on may be assumed. -/
theorem of_and {p : Prop} (h : p → Running.Ensures P x Q E F) :
    Running.Ensures (fun s => p ∧ P s) x Q E F :=
  ⟨fun s hs => (h hs.1).run s hs.2⟩

theorem orReport {result : Except String α} (hQ : ∀ a s, P s → Q a s) (hE : ∀ s, P s → E s) :
    Running.Ensures P (Session.orReport result) Q E F := by
  cases result with
  | ok a => exact pure (hQ a)
  | error message => exact throw hE

end Running.Ensures

namespace Session

/-- What the session sent on its way from one state to the other. -/
def Says (s : Session) (ms : List BackendMessage) (s' : Session) : Prop :=
  ∃ new, s'.sent = new ++ s.sent ∧ Spells (new.reverse.flatMap Outgoing.bytes) ms

theorem Says.of_sent_eq {s s' : Session} (h : s'.sent = s.sent) : Says s [] s' :=
  ⟨[], by simp [h], .nil⟩

theorem Says.trans {s t u : Session} {ms ns : List BackendMessage} (h : Says s ms t)
    (h' : Says t ns u) : Says s (ms ++ ns) u := by
  obtain ⟨new, hs, hm⟩ := h
  obtain ⟨new', hs', hn⟩ := h'
  refine ⟨new' ++ new, by rw [hs', hs, List.append_assoc], ?_⟩
  rw [List.reverse_append, List.flatMap_append]
  exact hm.append hn

theorem Says.message {s s' : Session} {m : BackendMessage} {bytes : Bytes} (hp : m.Plain)
    (he : m.encode = .ok bytes) (h : s'.sent = .message m :: s.sent) : Says s [m.received] s' := by
  refine ⟨[.message m], h, ?_⟩
  have hb : Outgoing.bytes (.message m) = bytes := by
    rw [Outgoing.bytes, he]
    rfl
  simpa [hb] using Spells.of_encode hp he

theorem Says.unique {s s' : Session} {ms ns : List BackendMessage} (h : Says s ms s')
    (h' : Says s ns s') : ms = ns := by
  obtain ⟨new, hs, hm⟩ := h
  obtain ⟨new', hs', hn⟩ := h'
  have hnew : new = new' := List.append_cancel_right (hs.symm.trans hs')
  subst hnew
  exact hm.unique hn

/-- The session reported an error on its way from one state to the other. -/
def Reported (s s' : Session) : Prop :=
  ∃ ms, Says s ms s' ∧ HasError ms

theorem Says.reported_iff {s s' : Session} {ms : List BackendMessage} (h : Says s ms s') :
    Reported s s' ↔ HasError ms := by
  constructor
  · intro h
    obtain ⟨ns, hns, he⟩ := h
    rwa [h.unique hns]
  · exact fun he => ⟨ms, h, he⟩

def Goes (p : Phase) (s : Session) (q : Phase) (s' : Session) : Prop :=
  ∃ ms, Says s ms s' ∧ p.after ms = some q

theorem Goes.of_sent_eq {s s' : Session} (p : Phase) (h : s'.sent = s.sent) : Goes p s p s' :=
  ⟨[], Says.of_sent_eq h, rfl⟩

theorem Goes.trans {p q r : Phase} {s t u : Session} (h : Goes p s q t) (h' : Goes q t r u) :
    Goes p s r u := by
  obtain ⟨ms, hs, hm⟩ := h
  obtain ⟨ns, hs', hn⟩ := h'
  exact ⟨ms ++ ns, hs.trans hs', Phase.after_trans hm hn⟩

/-- What sends nothing does not change how far the answer has come. -/
theorem Goes.still {p q : Phase} {s t u : Session} (h : Goes p s q t) (hs : u.sent = t.sent) :
    Goes p s q u :=
  h.trans (Goes.of_sent_eq q hs)

theorem Goes.message {p q : Phase} {s s' : Session} {m : BackendMessage} {bytes : Bytes}
    (hp : m.Plain) (he : m.encode = .ok bytes) (h : s'.sent = .message m :: s.sent)
    (hq : p.next m.received = some q) : Goes p s q s' :=
  ⟨[m.received], Says.message hp he h, by rw [Phase.after_singleton, hq]⟩

/-- The session got from `t` to `s` and its answer from `p` to `q`, in the same stage and with a
channel that takes every write. -/
structure Trail (p : Phase) (t : Session) (q : Phase) (s : Session) : Prop where
  goes : Goes p t q s
  stage : s.stage = t.stage
  skipping : s.skipping = t.skipping
  writes : s.writesLeft = none

theorem Trail.refl {s : Session} (p : Phase) (h : s.writesLeft = none) : Trail p s p s :=
  ⟨Goes.of_sent_eq p rfl, rfl, rfl, h⟩

theorem Trail.trans {p q r : Phase} {t u s : Session} (h : Trail p t q u) (h' : Trail q u r s) :
    Trail p t r s :=
  ⟨h.goes.trans h'.goes, h'.stage.trans h.stage, h'.skipping.trans h.skipping, h'.writes⟩

structure Steady (t s : Session) : Prop where
  inTransaction : s.inTransaction = t.inTransaction
  aborted : s.aborted = t.aborted
  executed : s.engine.lastExecuted? = t.engine.lastExecuted?

theorem Steady.refl (s : Session) : Steady s s := ⟨rfl, rfl, rfl⟩

theorem useWrite_eq {s : Session} (hw : s.writesLeft = none) : useWrite s = (.ok (), s) := by
  unfold useWrite
  rw [bind_apply, get_apply]
  dsimp only
  rw [hw]
  rfl

theorem send_eq {s : Session} (m : BackendMessage) (hw : s.writesLeft = none) :
    send m s = match m.encode with
      | .error e => (.error (ServerError.io e.message), s)
      | .ok _ => (.ok (), { s with sent := .message m :: s.sent }) := by
  unfold send
  cases m.encode with
  | error e => rfl
  | ok bytes =>
      dsimp only
      rw [bind_apply, useWrite_eq hw]
      rfl

/-- While the channel takes a write, a message that can be put on the wire gets out. -/
theorem send_writes {s : Session} {m : BackendMessage} {bytes : Bytes} (hb : m.encode = .ok bytes)
    (hw : s.writesLeft ≠ some 0) :
    send m s = (.ok (), { s with
      sent := .message m :: s.sent, writesLeft := s.writesLeft.map Nat.pred }) := by
  match h : s.writesLeft with
  | none =>
      rw [send_eq m h, hb, ← h]
      simp [h]
  | some 0 => exact absurd h hw
  | some (n + 1) =>
      unfold send useWrite
      rw [hb]
      dsimp only
      rw [bind_apply, bind_apply, get_apply]
      dsimp only
      rw [h]
      rfl

/-- A message that may come next takes the answer on, or cannot be put on the wire. -/
theorem send_ensures {P : Session → Prop} {Q : Unit → Session → Prop}
    {F : ServerError → Session → Prop} (m : BackendMessage) (hw : ∀ s, P s → s.writesLeft = none)
    (hQ : ∀ s bytes, P s → m.encode = .ok bytes →
      Q () { s with sent := .message m :: s.sent })
    (hF : ∀ e s, P s → F e s) : Ensures P (send m) Q F := by
  constructor
  intro s hs
  rw [send_eq m (hw s hs)]
  cases he : m.encode with
  | error e => exact hF _ s hs
  | ok bytes => exact hQ s bytes hs he

/-- A statement's answer, begun in `p`, has come to `q` without touching the transaction. -/
def Streams (p : Phase) (t : Session) (q : Phase) (s : Session) : Prop :=
  Trail p t q s ∧ Steady t s

def StreamsTo (p : Phase) (t s : Session) : Prop :=
  ∃ q, q.Reports ∧ Streams p t q s

section

variable {p q r : Phase} {t : Session}

theorem Streams.message {s : Session} {m : BackendMessage} {bytes : Bytes} (hp : m.Plain)
    (hn : q.next m.received = some r) (h : Streams p t q s) (he : m.encode = .ok bytes) :
    Streams p t r { s with sent := .message m :: s.sent } :=
  ⟨⟨h.1.goes.trans (Goes.message hp he rfl hn), h.1.stage, h.1.skipping, h.1.writes⟩,
    h.2.inTransaction, h.2.aborted, h.2.executed⟩

theorem Streams.send (m : BackendMessage) (hp : m.Plain) (hq : q.Reports)
    (hn : q.next m.received = some r) :
    Ensures (Streams p t q) (Session.send m) (fun _ => Streams p t r) (fun _ => StreamsTo p t) :=
  send_ensures m (fun _ h => h.1.writes) (fun _ _ h he => h.message hp hn he)
    (fun _ _ h => ⟨q, hq, h⟩)

theorem Streams.complete (tag : String) (hq : q.Reports)
    (hn : ∀ tag, q.next (.commandComplete tag) = some .between) :
    Ensures (Streams p t q) (Session.send (.commandComplete tag)) (fun _ => Streams p t .between)
      (fun _ => StreamsTo p t) :=
  Streams.send (.commandComplete tag) trivial hq (hn tag)

/-- Asking the engine about rows is no matter of the transaction. -/
theorem Streams.asked {s : Session} {e : Engine} (h : Streams p t q s)
    (he : e.lastExecuted? = s.engine.lastExecuted?) : Streams p t q { s with engine := e } :=
  ⟨⟨h.1.goes.trans (Goes.of_sent_eq q rfl), h.1.stage, h.1.skipping, h.1.writes⟩,
    h.2.inTransaction, h.2.aborted, he.trans h.2.executed⟩

theorem Streams.ask {α : Type} (call : Engine → α × Engine)
    (hc : ∀ e, (call e).2.lastExecuted? = e.lastExecuted?) :
    Ensures (Streams p t q) (ask call) (fun _ => Streams p t q) (fun _ => StreamsTo p t) :=
  ⟨fun s h => h.asked (hc s.engine)⟩

theorem Streams.noteNext (answer : RowAnswer) :
    Ensures (Streams p t q) (noteNext answer) (fun _ => Streams p t q)
      (fun _ => StreamsTo p t) :=
  ⟨fun s h => h.asked (by simp [Engine.lastExecuted?, Engine.note])⟩

theorem Streams.reports (hq : q.Reports) (s : Session) (h : Streams p t q s) : StreamsTo p t s :=
  ⟨q, hq, h⟩

end

theorem values_length {source : RowSource} {cells : List Cell} {values : List Value}
    (h : source.values cells = .ok values) : values.length = source.columns.length := by
  rw [mapM_length h]
  simp
  omega

theorem columnOids_length (columns : List EngineColumn) (first : Option (List Value)) :
    (columnOids columns first).length = columns.length := by
  simp [columnOids]

def rowsOf (columns : List EngineColumn) : Phase := .rows (Bytes.announced columns.length)

section

variable {p q : Phase} {t : Session} {source : RowSource} {oids : List TypeOid}

theorem sendRow_streams {values : List Value} (ho : oids.length = source.columns.length)
    (hv : values.length = source.columns.length) :
    Ensures (Streams p t (rowsOf source.columns)) (sendRow oids values)
      (fun _ => Streams p t (rowsOf source.columns)) (fun _ => StreamsTo p t) := by
  refine Streams.send (.dataRow _) trivial (Phase.reports_rows _) ?_
  have hk := Bytes.announced_le source.columns.length
  simp [rowsOf, BackendMessage.received, Phase.next, ho, hv, hk]

theorem readCells_streams (cells : List Cell) (hq : q.Reports) :
    Running.Ensures (Streams p t q) (readCells source cells)
      (fun values s => values.length = source.columns.length ∧ Streams p t q s)
      (StreamsTo p t) (StreamsTo p t) := by
  unfold readCells
  cases h : source.values cells with
  | error message => exact Running.Ensures.throw (Streams.reports hq)
  | ok values => exact Running.Ensures.pure fun s hs => ⟨values_length h, hs⟩

theorem sendRows_streams (ho : oids.length = source.columns.length) (count : Nat)
    (answers : List RowAnswer) :
    Running.Ensures (Streams p t (rowsOf source.columns)) (sendRows source oids count answers)
      (fun _ => Streams p t (rowsOf source.columns)) (StreamsTo p t) (StreamsTo p t) := by
  have hr : (rowsOf source.columns).Reports := Phase.reports_rows _
  induction answers generalizing count with
  | nil =>
      exact (Running.Ensures.surely (Streams.noteNext .done)).bind fun _ =>
        Running.Ensures.pure fun _ h => h
  | cons answer answers ih =>
      refine (Running.Ensures.surely (Streams.noteNext answer)).bind fun _ => ?_
      cases answer with
      | done => exact Running.Ensures.pure fun _ h => h
      | error message => exact Running.Ensures.throw (Streams.reports hr)
      | row cells =>
          refine (readCells_streams cells hr).bind fun values => ?_
          refine Running.Ensures.bind (Q := fun _ => Streams p t (rowsOf source.columns)) ?_
            fun _ => ih (count + 1)
          exact Running.Ensures.of_and fun hv => Running.Ensures.surely (sendRow_streams ho hv)

theorem firstRow_streams (hq : q.Reports) :
    Running.Ensures (Streams p t q) (firstRow source)
      (fun first s => (∀ values, first = some values → values.length = source.columns.length) ∧
        Streams p t q s)
      (StreamsTo p t) (StreamsTo p t) := by
  refine (Running.Ensures.surely (Streams.noteNext _)).bind fun _ => ?_
  cases source.answers.headD .done with
  | done => exact Running.Ensures.pure fun _ h => ⟨by simp, h⟩
  | error message => exact Running.Ensures.throw (Streams.reports hq)
  | row cells =>
      refine (readCells_streams cells hq).bind fun values => Running.Ensures.pure fun s hs => ?_
      refine ⟨?_, hs.2⟩
      intro values' h
      cases h
      exact hs.1

end

end Session

def Describing.Suits (d : Describing) (p : Phase) : Prop :=
  d = .portal ∧ p = .opening ∨ d = .simple ∧ p = .between

theorem Describing.Suits.reports {d : Describing} {p : Phase} (h : d.Suits p) : p.Reports := by
  rcases h with ⟨-, rfl⟩ | ⟨-, rfl⟩
  · exact Phase.reports_opening
  · exact Phase.reports_between

theorem Describing.Suits.ne_silent {d : Describing} {p : Phase} (h : d.Suits p) : d ≠ .silent := by
  rcases h with ⟨rfl, -⟩ | ⟨rfl, -⟩ <;> decide

/-- Where a statement begins, it can begin a result or end at once. -/
theorem Describing.Suits.next_eq {d : Describing} {p : Phase} (h : d.Suits p) {m : BackendMessage}
    {q : Phase} (hb : Phase.begin m = some q) : p.next m = some q := by
  rcases h with ⟨-, rfl⟩ | ⟨-, rfl⟩ <;> cases m <;> first | exact hb | cases hb

theorem Describing.Suits.next_notice {d : Describing} {p : Phase} (h : d.Suits p)
    (report : Diagnostic) : p.next (.noticeResponse report) = some p := by
  rcases h with ⟨-, rfl⟩ | ⟨-, rfl⟩ <;> rfl

namespace Session

section

variable {p q : Phase} {t : Session} {describing : Describing}

theorem describeColumns_begin {columns : List EngineColumn} {oids : List TypeOid}
    (ho : oids.length = columns.length) :
    Phase.begin (describeColumns columns oids).received = some (rowsOf columns) := by
  have hk := Bytes.announced_le columns.length
  simp [describeColumns, BackendMessage.received, Phase.begin, rowsOf, ho, hk]

theorem streamRows_streams (sql : String) (params : List Value) (source : RowSource)
    (hd : describing.Suits q) :
    Running.Ensures (Streams p t q) (streamRows sql params describing source)
      (fun _ => Streams p t .between) (StreamsTo p t) (StreamsTo p t) := by
  have hr : (rowsOf source.columns).Reports := Phase.reports_rows _
  unfold streamRows
  refine (Running.Ensures.surely (Streams.ask _ fun e => by
    simp [Engine.lastExecuted?, Engine.note])).bind fun _ => ?_
  cases source.startError with
  | some message => exact Running.Ensures.throw (Streams.reports hd.reports)
  | none =>
      refine (firstRow_streams hd.reports).bind fun first => ?_
      have ho := columnOids_length source.columns first
      dsimp only
      rw [if_pos hd.ne_silent]
      have hrest (count : Nat) : Running.Ensures (Streams p t (rowsOf source.columns))
          (do
            let count ← sendRows source (columnOids source.columns first) count source.answers.tail
            surely (send (.commandComplete (commandTag sql count))))
          (fun _ => Streams p t .between) (StreamsTo p t) (StreamsTo p t) :=
        (sendRows_streams ho count _).bind fun count =>
          Running.Ensures.surely (Streams.complete (commandTag sql count) hr (fun _ => rfl))
      refine Running.Ensures.bind (Q := fun _ s =>
        (∀ values, first = some values → values.length = source.columns.length) ∧
          Streams p t (rowsOf source.columns) s) ?_ fun _ => ?_
      · refine Running.Ensures.of_and fun hv => ?_
        have hsend := Running.Ensures.surely (E := StreamsTo p t) (Streams.send (t := t) (p := p)
          (describeColumns source.columns (columnOids source.columns first)) trivial hd.reports
          (hd.next_eq (describeColumns_begin ho)))
        exact hsend.mono (fun _ h => h) (fun _ _ h => ⟨hv, h⟩) (fun _ h => h) fun _ h => h
      · cases first with
        | none => exact (hrest 0).mono (fun _ h => h.2) (fun _ _ h => h) (fun _ h => h) fun _ h => h
        | some values =>
            refine Running.Ensures.bind (Q := fun _ => Streams p t (rowsOf source.columns)) ?_
              fun _ => hrest 1
            exact Running.Ensures.of_and fun hv =>
              Running.Ensures.surely (sendRow_streams ho (hv values rfl))

theorem runChange_streams (sql : String) (params : List Value) (rows : Nat)
    (runError : Option String) (hd : describing.Suits q) :
    Running.Ensures (Streams p t q) (runChange sql params describing rows runError)
      (fun _ => Streams p t .between) (StreamsTo p t) (StreamsTo p t) := by
  unfold runChange
  refine (Running.Ensures.surely (Streams.ask _ fun e => by
    simp [Engine.lastExecuted?, Engine.note])).bind fun _ => ?_
  cases runError with
  | some message => exact Running.Ensures.throw (Streams.reports hd.reports)
  | none =>
      have hdone : Running.Ensures (Streams p t q)
          (surely (send (.commandComplete (commandTag sql rows))))
          (fun _ => Streams p t .between) (StreamsTo p t) (StreamsTo p t) :=
        Running.Ensures.surely (Streams.complete (commandTag sql rows) hd.reports
          fun _ => hd.next_eq rfl)
      rcases hd with ⟨rfl, rfl⟩ | ⟨rfl, rfl⟩
      · exact (Running.Ensures.surely (Streams.send .noData trivial Phase.reports_opening rfl)).bind
          fun _ => hdone
      · exact hdone

/-- A statement that is not about the transaction leaves the transaction alone; its answer comes
to its end, or to where an error can be reported. -/
theorem streamStatement_streams (sql : String) (params : List Value) (hd : describing.Suits q) :
    Running.Ensures (Streams p t q) (streamStatement sql params describing)
      (fun _ => Streams p t .between) (StreamsTo p t) (StreamsTo p t) := by
  unfold streamStatement
  refine (Running.Ensures.surely (Streams.ask _ fun e => Engine.lastExecuted_prepare e sql)).bind
    fun result => ?_
  refine (Running.Ensures.orReport (Q := fun _ => Streams p t q) (fun _ _ h => h)
    (Streams.reports hd.reports)).bind fun prepared => ?_
  cases prepared with
  | returning source => exact streamRows_streams sql params source hd
  | changing rows runError => exact runChange_streams sql params rows runError hd

end

end Session

end SqlWire
