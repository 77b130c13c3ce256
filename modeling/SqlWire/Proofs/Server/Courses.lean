import SqlWire.Proofs.Server.Outcomes

/-!
# The course of a result

What a session does to run a statement with columns is known from what the engine answers:
`RowSource.course` lists it, the engine's calls and the messages in their order. A write that fails
breaks the course off in front of the message that did not get out, and nothing else does.
-/

namespace SqlWire

/-- Something that a session does and that its engine or its client can tell. -/
inductive Deed where
  | asked (call : EngineCall)
  | said (m : BackendMessage)
  deriving DecidableEq, Repr

namespace Deed

def call? : Deed → Option EngineCall
  | asked call => some call
  | said _ => none

def message? : Deed → Option BackendMessage
  | asked _ => none
  | said m => some m

def calls (deeds : List Deed) : List EngineCall := deeds.filterMap call?

def messages (deeds : List Deed) : List BackendMessage := deeds.filterMap message?

section

variable (deeds more : List Deed)

@[simp] theorem calls_nil : calls [] = [] := rfl

@[simp] theorem calls_asked (call : EngineCall) :
    calls (.asked call :: deeds) = call :: calls deeds := rfl

@[simp] theorem calls_said (m : BackendMessage) : calls (.said m :: deeds) = calls deeds := rfl

@[simp] theorem calls_append : calls (deeds ++ more) = calls deeds ++ calls more :=
  List.filterMap_append

@[simp] theorem calls_map_said (ms : List BackendMessage) : calls (ms.map .said) = [] := by
  induction ms with
  | nil => rfl
  | cons m ms ih => exact ih

@[simp] theorem calls_map_asked (front : List EngineCall) : calls (front.map .asked) = front := by
  induction front with
  | nil => rfl
  | cons call front ih => exact congrArg (call :: ·) ih

@[simp] theorem messages_nil : messages [] = [] := rfl

@[simp] theorem messages_asked (call : EngineCall) :
    messages (.asked call :: deeds) = messages deeds := rfl

@[simp] theorem messages_said (m : BackendMessage) :
    messages (.said m :: deeds) = m :: messages deeds := rfl

@[simp] theorem messages_append : messages (deeds ++ more) = messages deeds ++ messages more :=
  List.filterMap_append

@[simp] theorem messages_map_said (ms : List BackendMessage) : messages (ms.map .said) = ms := by
  induction ms with
  | nil => rfl
  | cons m ms ih => exact congrArg (m :: ·) ih

end

end Deed

namespace Session

/-- The session came from `s` to `u` by these deeds, the earliest first. -/
structure Performed (s : Session) (deeds : List Deed) (u : Session) : Prop where
  calls : u.engine.calls = (Deed.calls deeds).reverse ++ s.engine.calls
  sent : u.sent = ((Deed.messages deeds).map Outgoing.message).reverse ++ s.sent
  writes : u.writesLeft = s.writesLeft.map (· - (Deed.messages deeds).length)

/-- Of these deeds the session did those in front of a message that it could not send: either the
message has no form as bytes, or no write is left. -/
def BrokeOff (s : Session) (deeds : List Deed) (u : Session) : Prop :=
  ∃ before m after, deeds = before ++ .said m :: after ∧ Performed s before u ∧
    (m.Sendable → u.writesLeft = some 0)

section

variable {s t u : Session} {deeds more : List Deed}

theorem Performed.refl (s : Session) : Performed s [] s :=
  ⟨rfl, rfl, Option.map_id'.symm⟩

theorem Performed.asked {call : EngineCall} (calls : u.engine.calls = call :: s.engine.calls)
    (sent : u.sent = s.sent) (writes : u.writesLeft = s.writesLeft) :
    Performed s [.asked call] u :=
  ⟨calls, sent, writes.trans Option.map_id'.symm⟩

theorem Performed.trans (h : Performed s deeds t) (h' : Performed t more u) :
    Performed s (deeds ++ more) u where
  calls := by simp [h'.calls, h.calls]
  sent := by simp [h'.sent, h.sent]
  writes := by
    rw [h'.writes, h.writes, Option.map_map, Deed.messages_append, List.length_append]
    exact congrArg (fun f => s.writesLeft.map f) (funext fun n => Nat.sub_sub ..)

/-- What was done is known from the calls and the messages that came of it. -/
theorem Performed.calls_eq (h : Performed s deeds u) {calls : List EngineCall}
    (hc : u.engine.calls = calls.reverse ++ s.engine.calls) : Deed.calls deeds = calls :=
  List.reverse_inj.1 (List.append_cancel_right (h.calls.symm.trans hc))

theorem Performed.messages_eq (h : Performed s deeds u) {ms : List BackendMessage}
    (hm : u.sent = (ms.map Outgoing.message).reverse ++ s.sent) : Deed.messages deeds = ms :=
  (List.map_inj_right fun _ _ => Outgoing.message.inj).1
    (List.reverse_inj.1 (List.append_cancel_right (h.sent.symm.trans hm)))

theorem Performed.brokeOff (h : Performed s deeds t) (h' : BrokeOff t more u) :
    BrokeOff s (deeds ++ more) u := by
  obtain ⟨before, m, after, rfl, hd, hm⟩ := h'
  exact ⟨deeds ++ before, m, after, (List.append_assoc ..).symm, h.trans hd, hm⟩

theorem BrokeOff.append (h : BrokeOff s deeds u) (more : List Deed) :
    BrokeOff s (deeds ++ more) u := by
  obtain ⟨before, m, after, rfl, h⟩ := h
  exact ⟨before, m, after ++ more, by simp, h⟩

end

/-- Wherever the work is begun, it does these deeds and comes to this result, or it breaks off. -/
def Follows (x : Running α) (deeds : List Deed) (result : Except Diagnostic α) : Prop :=
  ∀ s, SqlWire.Ensures (· = s) (ExceptT.run x) (fun r u => r = result ∧ Performed s deeds u)
    fun _ => BrokeOff s deeds

namespace Follows

variable {x : Running α} {f : α → Running β} {deeds more : List Deed} {a : α}

theorem bind {result : Except Diagnostic β} (hx : Follows x deeds (.ok a))
    (hf : Follows (f a) more result) : Follows (x >>= f) (deeds ++ more) result := by
  intro s
  refine SqlWire.Ensures.bind ((hx s).mono (fun _ h => h) (fun _ _ h => h) fun _ _ h =>
    h.append more) fun r => ⟨?_⟩
  rintro t ⟨rfl, ht⟩
  exact ((hf t).run t rfl).mono (fun _ _ h => ⟨h.1, ht.trans h.2⟩) fun _ _ h => ht.brokeOff h

/-- Behind an error nothing more is done. -/
theorem stop {d : Diagnostic} (hx : Follows x deeds (.error d)) :
    Follows (x >>= f) deeds (.error d) := by
  intro s
  refine SqlWire.Ensures.bind (hx s) fun r => ⟨?_⟩
  rintro t ⟨rfl, ht⟩
  exact ⟨rfl, ht⟩

theorem pure (a : α) : Follows (Pure.pure a) [] (.ok a) :=
  fun s => SqlWire.Ensures.pure fun _ h => ⟨rfl, h ▸ Performed.refl s⟩

theorem throw (d : Diagnostic) : Follows (MonadExcept.throw d : Running α) [] (.error d) :=
  fun s => SqlWire.Ensures.pure fun _ h => ⟨rfl, h ▸ Performed.refl s⟩

theorem note (call : EngineCall) :
    Follows (surely (ask fun e => ((), e.note call))) [.asked call] (.ok ()) := by
  refine fun s => ⟨fun t ht => ?_⟩
  subst ht
  exact ⟨rfl, Performed.asked rfl rfl rfl⟩

theorem noteNext (answer : RowAnswer) :
    Follows (surely (Session.noteNext answer)) [.asked (.next answer)] (.ok ()) :=
  note (.next answer)

theorem send (m : BackendMessage) : Follows (surely (Session.send m)) [.said m] (.ok ()) := by
  intro s
  have sent : SqlWire.Ensures (· = s) (Session.send m) (fun _ => Performed s [.said m])
      fun _ => BrokeOff s [.said m] := by
    refine ⟨fun t ht => ?_⟩
    subst ht
    cases hm : m.encode with
    | error e =>
        unfold Session.send
        rw [hm]
        refine ⟨[], m, [], rfl, Performed.refl _, ?_⟩
        rintro ⟨bytes, hb⟩
        cases hm.symm.trans hb
    | ok bytes =>
        by_cases hw : t.writesLeft = some 0
        · unfold Session.send useWrite
          rw [hm]
          dsimp only
          rw [bind_apply, bind_apply, get_apply]
          dsimp only
          rw [hw]
          exact ⟨[], m, [], rfl, Performed.refl _, fun _ => hw⟩
        · rw [send_writes hm hw]
          exact ⟨rfl, rfl, rfl⟩
  exact SqlWire.Ensures.bind sent fun _ => SqlWire.Ensures.pure fun _ h => ⟨rfl, h⟩

end Follows

end Session

def Engine.verdict (error : Option String) (a : α) : Except Diagnostic α :=
  match error with
  | none => .ok a
  | some message => .error (report message)

/-! ## Rows -/

namespace RowSource

variable (source : RowSource) (oids : List TypeOid)

def row? : RowAnswer → Option (List Value)
  | .row cells => (source.values cells).toOption
  | _ => none

def rowMessage (values : List Value) : BackendMessage :=
  .dataRow (values.zipWith (fun v oid => v.toResult oid) oids)

/-- The answers for which rows are asked: up to the first that is not a row that can be read. -/
def replies : List RowAnswer → List RowAnswer
  | [] => [.done]
  | answer :: rest => answer :: if (source.row? answer).isSome then replies rest else []

def answerDeeds (answer : RowAnswer) : List Deed :=
  .asked (.next answer) :: (source.row? answer).toList.map fun values =>
    .said (rowMessage oids values)

section

variable {source : RowSource} {oids : List TypeOid} {cells : List Cell}

theorem row?_read {values : List Value} (h : source.values cells = .ok values) :
    source.row? (.row cells) = some values := by
  change (source.values cells).toOption = _
  rw [h]
  rfl

theorem row?_unread {message : String} (h : source.values cells = .error message) :
    source.row? (.row cells) = none := by
  change (source.values cells).toOption = _
  rw [h]
  rfl

end

end RowSource

namespace Session

theorem readCells_follows (source : RowSource) (cells : List Cell) :
    Follows (readCells source cells) [] (match source.values cells with
      | .ok values => .ok values
      | .error message => .error (Engine.report message)) := by
  unfold readCells
  cases source.values cells with
  | ok values => exact Follows.pure values
  | error message => exact Follows.throw _

/-- Each row is sent before the next is asked for, up to the end or to the first error. -/
theorem sendRows_follows (source : RowSource) (oids : List TypeOid) (count : Nat)
    (answers : List RowAnswer) :
    Follows (sendRows source oids count answers)
      ((source.replies answers).flatMap (source.answerDeeds oids))
      (Engine.verdict (source.rowsError? answers)
        (count + ((source.replies answers).filterMap source.row?).length)) := by
  induction answers generalizing count with
  | nil => exact (Follows.noteNext .done).bind (Follows.pure count)
  | cons answer answers ih =>
      cases answer with
      | done => exact (Follows.noteNext .done).bind (Follows.pure count)
      | error message => exact (Follows.noteNext (.error message)).bind (Follows.throw _)
      | row cells =>
          have read := readCells_follows source cells
          cases hv : source.values cells with
          | error message =>
              have unread := RowSource.row?_unread hv
              have error : source.rowsError? (.row cells :: answers) = some message := by
                simp [RowSource.rowsError?, RowSource.errorAt?, hv, failureOf]
              have deeds : (source.replies (.row cells :: answers)).flatMap
                  (source.answerDeeds oids) = [.asked (.next (.row cells))] := by
                simp [RowSource.replies, RowSource.answerDeeds, unread]
              rw [hv] at read
              rw [error, deeds]
              exact (Follows.noteNext (.row cells)).bind read.stop
          | ok values =>
              have some := RowSource.row?_read hv
              have error : source.rowsError? (.row cells :: answers) =
                  source.rowsError? answers := by
                simp [RowSource.rowsError?, RowSource.errorAt?, hv, failureOf]
              have deeds : (source.replies (.row cells :: answers)).flatMap
                  (source.answerDeeds oids) = [.asked (.next (.row cells))] ++
                    ([] ++ ([.said (RowSource.rowMessage oids values)] ++
                      (source.replies answers).flatMap (source.answerDeeds oids))) := by
                simp [RowSource.replies, RowSource.answerDeeds, some]
              have length : count + ((source.replies (.row cells :: answers)).filterMap
                  source.row?).length =
                    count + 1 + ((source.replies answers).filterMap source.row?).length := by
                simp [RowSource.replies, some]
                omega
              rw [hv] at read
              rw [error, deeds, length]
              refine (Follows.noteNext (.row cells)).bind (read.bind ?_)
              exact (Follows.send (RowSource.rowMessage oids values)).bind (ih (count + 1))

/-- Asking for the first row gives the row, or nothing if there is none. -/
theorem firstRow_follows (source : RowSource) :
    Follows (firstRow source) [.asked (.next (source.answers.headD .done))]
      (Engine.verdict (source.errorAt? (source.answers.headD .done))
        (source.row? (source.answers.headD .done))) := by
  unfold firstRow
  generalize source.answers.headD .done = answer
  cases answer with
  | done => exact (Follows.noteNext .done).bind (Follows.pure none)
  | error message => exact (Follows.noteNext (.error message)).bind (Follows.throw _)
  | row cells =>
      have read := readCells_follows source cells
      refine (Follows.noteNext (.row cells)).bind ?_
      cases hv : source.values cells with
      | error message =>
          rw [hv] at read
          have error : source.errorAt? (.row cells) = some message := by
            simp [RowSource.errorAt?, hv, failureOf]
          rw [error]
          exact read.stop
      | ok values =>
          rw [hv] at read
          have error : source.errorAt? (.row cells) = none := by
            simp [RowSource.errorAt?, hv, failureOf]
          rw [error, RowSource.row?_read hv]
          exact read.bind (Follows.pure (some values))

end Session

/-! ## Whole results -/

namespace RowSource

variable (source : RowSource)

def firstReply : RowAnswer := source.answers.headD .done

/-- The answers of all the times that a row is asked for. The first time stands in front of the
others, which follow it even if there is no row. -/
def allReplies : List RowAnswer :=
  if source.startError.isSome then []
  else source.firstReply ::
    if (source.errorAt? source.firstReply).isSome then [] else source.replies source.answers.tail

def rows : List (List Value) := source.allReplies.filterMap source.row?

def oids : List TypeOid :=
  Session.columnOids source.columns (source.row? source.firstReply)

def description (describing : Describing) : List BackendMessage :=
  if describing = .silent then [] else [Session.describeColumns source.columns source.oids]

def completion (sql : String) : List BackendMessage :=
  if source.error?.isSome then [] else [.commandComplete (commandTag sql source.rows.length)]

/-- What the session says of the result: nothing, if it fails before the first row is known. -/
def messages (sql : String) (describing : Describing) : List BackendMessage :=
  if (source.startError.or (source.errorAt? source.firstReply)).isSome then []
  else source.description describing ++ source.rows.map (rowMessage source.oids) ++
    source.completion sql

/-- What the session does to run the statement, from its start. -/
def course (sql : String) (params : List Value) (describing : Describing) : List Deed :=
  .asked (.query params) ::
    if source.startError.isSome then []
    else .asked (.next source.firstReply) ::
      if (source.errorAt? source.firstReply).isSome then []
      else (source.description describing).map .said ++
        (((source.row? source.firstReply).toList.map fun values =>
          .said (rowMessage source.oids values)) ++
        ((source.replies source.answers.tail).flatMap (source.answerDeeds source.oids) ++
        (source.completion sql).map .said))

end RowSource

namespace RowSource

variable {source : RowSource}

theorem error?_started (hs : source.startError = none) : source.error? =
    (source.errorAt? source.firstReply).or (source.rowsError? source.answers.tail) := by
  unfold error?
  rw [hs]
  rfl

theorem allReplies_started (hs : source.startError = none)
    (he : source.errorAt? source.firstReply = none) :
    source.allReplies = source.firstReply :: source.replies source.answers.tail := by
  unfold allReplies
  rw [hs, he]
  rfl

/-- The first row is counted apart from the others. -/
theorem length_rows (hs : source.startError = none)
    (he : source.errorAt? source.firstReply = none) :
    source.rows.length = (if (source.row? source.firstReply).isSome then 1 else 0) +
      ((source.replies source.answers.tail).filterMap source.row?).length := by
  unfold rows
  rw [allReplies_started hs he, List.filterMap_cons]
  cases source.row? source.firstReply with
  | none => simp
  | some values => simp [Nat.add_comm]

end RowSource

namespace Session

/-- The rows behind the first are sent, and the end of the result if there is no error. -/
theorem remainder_follows (source : RowSource) (sql : String) (oids : List TypeOid) (n : Nat)
    (answers : List RowAnswer) :
    Follows (do
      let count ← sendRows source oids n answers
      surely (send (.commandComplete (commandTag sql count))))
      ((source.replies answers).flatMap (source.answerDeeds oids) ++
        if (source.rowsError? answers).isSome then []
        else [.said (.commandComplete (commandTag sql
          (n + ((source.replies answers).filterMap source.row?).length)))])
      (Engine.verdict (source.rowsError? answers) ()) := by
  have sent := sendRows_follows source oids n answers
  cases hr : source.rowsError? answers with
  | some message =>
      rw [hr] at sent
      rw [Option.isSome_some, if_pos rfl, List.append_nil]
      exact sent.stop
  | none =>
      rw [hr] at sent
      exact sent.bind (Follows.send _)

/-- A result takes its course, and fails if the engine answers with an error. -/
theorem streamRows_follows (sql : String) (params : List Value) (describing : Describing)
    (source : RowSource) :
    Follows (streamRows sql params describing source) (source.course sql params describing)
      (Engine.verdict source.error? ()) := by
  unfold streamRows RowSource.course
  cases hs : source.startError with
  | some message =>
      have error : source.error? = some message := by simp [RowSource.error?, hs]
      rw [error]
      exact (Follows.note (.query params)).bind (Follows.throw _)
  | none =>
      have first : Follows (firstRow source) [.asked (.next source.firstReply)]
        (Engine.verdict (source.errorAt? source.firstReply) (source.row? source.firstReply)) :=
        firstRow_follows source
      rw [RowSource.error?_started hs, Option.isSome_none, if_neg Bool.false_ne_true]
      cases he : source.errorAt? source.firstReply with
      | some message =>
          rw [he] at first
          exact (Follows.note (.query params)).bind first.stop
      | none =>
          rw [he] at first
          rw [Option.isSome_none, if_neg Bool.false_ne_true, Option.none_or]
          refine (Follows.note (.query params)).bind (first.bind ?_)
          have types : columnOids source.columns (source.row? source.firstReply) = source.oids :=
            rfl
          have remainder := remainder_follows source sql source.oids
            (if (source.row? source.firstReply).isSome then 1 else 0) source.answers.tail
          have completion : (source.completion sql).map Deed.said =
              if (source.rowsError? source.answers.tail).isSome then []
              else [.said (.commandComplete (commandTag sql source.rows.length))] := by
            rw [RowSource.completion, RowSource.error?_started hs, he, Option.none_or]
            split <;> rfl
          rw [← RowSource.length_rows hs he, ← completion] at remainder
          generalize (source.replies source.answers.tail).flatMap
            (source.answerDeeds source.oids) ++ (source.completion sql).map .said = behind
            at remainder ⊢
          dsimp only
          rw [types]
          have described : Follows (surely (send (describeColumns source.columns source.oids)))
              [.said (describeColumns source.columns source.oids)] (.ok ()) := Follows.send _
          unfold RowSource.description
          generalize source.row? source.firstReply = first at remainder ⊢
          by_cases hd : describing = .silent
          · rw [if_pos hd, if_neg (not_not.2 hd)]
            cases first with
            | none => exact remainder
            | some values =>
                exact (Follows.send (RowSource.rowMessage source.oids values)).bind remainder
          · rw [if_neg hd, if_pos hd]
            cases first with
            | none => exact described.bind remainder
            | some values =>
                exact described.bind
                  ((Follows.send (RowSource.rowMessage source.oids values)).bind remainder)

/-- Work that is begun at `s` does these deeds and comes to this result, or it breaks off. -/
def Takes (s : Session) (x : Running α) (deeds : List Deed) (result : Except Diagnostic α) :
    Prop :=
  (∃ u, x s = (.ok result, u) ∧ Performed s deeds u) ∨
    ∃ e u, x s = (.error e, u) ∧ BrokeOff s deeds u

theorem Follows.takes {x : Running α} {deeds : List Deed} {result : Except Diagnostic α}
    (h : Follows x deeds result) (s : Session) : Takes s x deeds result := by
  have run := (h s).run s rfl
  rcases hx : x s with ⟨r | r, u⟩
  · change ExceptT.run x s = _ at hx
    rw [hx] at run
    exact .inr ⟨r, u, hx, run⟩
  · change ExceptT.run x s = _ at hx
    rw [hx] at run
    obtain ⟨rfl, run⟩ := run
    exact .inl ⟨u, hx, run⟩

theorem Takes.performed {x : Running α} {deeds : List Deed} {result r : Except Diagnostic α}
    {s : Session} (h : Takes s x deeds result) (hr : (x s).1 = .ok r) :
    r = result ∧ Performed s deeds (x s).2 := by
  rcases h with ⟨u, hx, hu⟩ | ⟨e, u, hx, -⟩
  · rw [hx] at hr ⊢
    exact ⟨(Except.ok.inj hr).symm, hu⟩
  · rw [hx] at hr
    cases hr

end Session

/-! ## What a course comes to -/

namespace RowSource

variable {source : RowSource} {oids : List TypeOid}

theorem answerDeeds_calls (answer : RowAnswer) :
    Deed.calls (source.answerDeeds oids answer) = [.next answer] := by
  cases h : source.row? answer <;> simp [answerDeeds, h]

theorem answerDeeds_messages (answer : RowAnswer) :
    Deed.messages (source.answerDeeds oids answer) =
      (source.row? answer).toList.map (rowMessage oids) := by
  cases h : source.row? answer <;> simp [answerDeeds, h]

theorem answersDeeds_calls (answers : List RowAnswer) :
    Deed.calls (answers.flatMap (source.answerDeeds oids)) = answers.map EngineCall.next := by
  induction answers with
  | nil => rfl
  | cons answer answers ih => simp [answerDeeds_calls, ih]

theorem answersDeeds_messages (answers : List RowAnswer) :
    Deed.messages (answers.flatMap (source.answerDeeds oids)) =
      (answers.filterMap source.row?).map (rowMessage oids) := by
  induction answers with
  | nil => rfl
  | cons answer answers ih =>
      cases h : source.row? answer <;> simp [answerDeeds_messages, ih, h]

variable (source) (sql : String) (params : List Value) (describing : Describing)

theorem course_calls : Deed.calls (source.course sql params describing) =
    .query params :: source.allReplies.map .next := by
  unfold course allReplies
  cases source.startError with
  | some message => rfl
  | none =>
      cases source.errorAt? source.firstReply with
      | some message => rfl
      | none => cases source.row? source.firstReply <;> simp [answersDeeds_calls]

theorem course_messages : Deed.messages (source.course sql params describing) =
    source.messages sql describing := by
  unfold course messages
  cases hs : source.startError with
  | some message => rfl
  | none =>
      cases he : source.errorAt? source.firstReply with
      | some message => rfl
      | none =>
          rw [rows, allReplies_started hs he]
          cases h : source.row? source.firstReply <;> simp [answersDeeds_messages, h]

end RowSource

end SqlWire
