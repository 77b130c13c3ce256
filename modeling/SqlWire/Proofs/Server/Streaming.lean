import SqlWire.Proofs.Server.Brackets
import SqlWire.Proofs.Server.Courses
import SqlWire.Proofs.Value.Texts

/-!
# What is told of a result

A statement with columns is answered with their description, with its rows and with a tag that
counts them. Rows are asked for up to the first answer that is not a row, except that an empty
result is asked for a row twice.
-/

namespace SqlWire

def RowAnswer.isFinal : RowAnswer → Bool
  | .row _ => false
  | .done | .error _ => true

/-- The columns are described, if that is asked for: each has one field, with its name and type. -/
def Describes (describing : Describing) (columns : List EngineColumn) (oids : List TypeOid)
    (ms : List BackendMessage) : Prop :=
  if describing = .silent then ms = []
  else ∃ fields, ms = [.rowDescription fields] ∧ fields.length = columns.length ∧
    fields.map FieldDescription.name = columns.map EngineColumn.name ∧
    fields.map FieldDescription.typeOid = oids

/-- What a client may be told of a result with these columns and rows: nothing, if it fails before
there is anything to be told; otherwise the description and the rows, and then either nothing or, if
it does not fail, its end. -/
inductive Told (sql : String) (describing : Describing) (columns : List EngineColumn)
    (rows : List (List Value)) : List BackendMessage → Except Diagnostic Unit → Prop
  | nothing (report : Diagnostic) (hr : rows = []) :
      Told sql describing columns rows [] (.error report)
  | part {oids : List TypeOid} {description : List BackendMessage} (report : Diagnostic)
      (hd : Describes describing columns oids description) (ho : oids.length = columns.length) :
      Told sql describing columns rows (description ++ rows.map (RowSource.rowMessage oids))
        (.error report)
  | whole {oids : List TypeOid} {description : List BackendMessage} {tag : String}
      (hd : Describes describing columns oids description) (ho : oids.length = columns.length)
      (ht : (SqlKind.ofText sql).isCounted = true → rows.length ≤ Decimal.word64Max →
        rowsOfTag? tag = some rows.length) :
      Told sql describing columns rows
        (description ++ rows.map (RowSource.rowMessage oids) ++ [.commandComplete tag]) (.ok ())

/-! ## The answers that are asked for -/

namespace RowSource

variable {source : RowSource} {answer : RowAnswer} {answers : List RowAnswer}

theorem row?_eq_none_iff : source.row? answer = none ↔
    answer.isFinal = true ∨
      ∃ cells message, answer = .row cells ∧ source.values cells = .error message := by
  cases answer with
  | row cells =>
      cases h : source.values cells with
      | ok values => simp [row?_read h, RowAnswer.isFinal, h]
      | error message => simp [row?_unread h, RowAnswer.isFinal, h]
  | done => simp [row?, RowAnswer.isFinal]
  | error message => simp [row?, RowAnswer.isFinal]

/-- An answer that fails is no row; the end of the rows is none either, but it does not fail. -/
theorem row?_of_errorAt (h : (source.errorAt? answer).isSome = true) :
    source.row? answer = none := by
  cases answer with
  | row cells =>
      cases hv : source.values cells with
      | ok values => simp [errorAt?, hv, failureOf] at h
      | error message => exact row?_unread hv
  | done => rfl
  | error message => rfl

theorem row?_of_no_error (h : source.errorAt? answer = none) :
    (source.row? answer).isSome = true ∨ answer = .done := by
  cases answer with
  | row cells =>
      cases hv : source.values cells with
      | ok values => exact .inl (by rw [row?_read hv]; rfl)
      | error message => simp [errorAt?, hv, failureOf] at h
  | done => exact .inr rfl
  | error message => cases h

theorem replies_ne_nil : source.replies answers ≠ [] := by
  cases answers <;> simp [replies]

theorem replies_getElem {i : Nat} (hi : i < (source.replies answers).length) :
    (source.replies answers)[i] = answers.getD i .done := by
  induction answers generalizing i with
  | nil =>
      have : i = 0 := by simpa [replies] using hi
      subst this
      rfl
  | cons answer answers ih =>
      cases i with
      | zero => rfl
      | succ i =>
          unfold replies at hi ⊢
          split at hi
          · next hr => simpa [hr] using ih (by simpa using hi)
          · simp at hi

/-- All but the last of the answers are rows. -/
theorem replies_before {i : Nat} (hi : i + 1 < (source.replies answers).length) :
    (source.row? (source.replies answers)[i]).isSome = true := by
  induction answers generalizing i with
  | nil => simp [replies] at hi
  | cons answer answers ih =>
      unfold replies at hi
      split at hi
      · next hr =>
          cases i with
          | zero => exact hr
          | succ i => simpa [replies, hr] using ih (by simpa using hi)
      · simp at hi

/-- The last is none. -/
theorem replies_last : source.row? ((source.replies answers).getLast replies_ne_nil) = none := by
  induction answers with
  | nil => rfl
  | cons answer answers ih =>
      cases hr : source.row? answer with
      | none => simp [replies, hr]
      | some values => simpa [replies, hr, List.getLast_cons replies_ne_nil] using ih

/-- How far a result comes: it is not started, it fails at its first row, or it is told of. -/
theorem allReplies_cases (source : RowSource) :
    (∃ message, source.startError = some message ∧ source.allReplies = []) ∨
      (∃ message, source.startError = none ∧ source.errorAt? source.firstReply = some message ∧
        source.allReplies = [source.firstReply]) ∨
      (source.startError = none ∧ source.errorAt? source.firstReply = none ∧
        source.allReplies = source.firstReply :: source.replies source.answers.tail) := by
  cases hs : source.startError with
  | some message => exact .inl ⟨message, rfl, by simp [allReplies, hs]⟩
  | none =>
      cases he : source.errorAt? source.firstReply with
      | some message => exact .inr (.inl ⟨message, rfl, rfl, by simp [allReplies, hs, he]⟩)
      | none => exact .inr (.inr ⟨rfl, rfl, allReplies_started hs he⟩)

/-- The answers are asked for one after the other. -/
theorem allReplies_getElem {i : Nat} (hi : i < source.allReplies.length) :
    source.allReplies[i] = source.answers.getD i .done := by
  have first : source.firstReply = source.answers.getD 0 .done := by
    unfold firstReply
    cases source.answers <;> rfl
  have later (i : Nat) : source.answers.tail.getD i .done = source.answers.getD (i + 1) .done := by
    cases source.answers <;> simp
  rcases source.allReplies_cases with
    ⟨_, _, all⟩ | ⟨_, _, _, all⟩ | ⟨_, _, all⟩
  · simp [all] at hi
  · have : i = 0 := by simpa [all] using hi
    subst this
    simpa [all] using first
  · cases i with
    | zero => simpa [all] using first
    | succ i =>
        have hi : i < (source.replies source.answers.tail).length := by simpa [all] using hi
        rw [← later, ← replies_getElem hi]
        simp [all]

/-- An answer behind which another is asked for is a row, or the first answer and the end. -/
theorem allReplies_before {i : Nat} (hi : i + 1 < source.allReplies.length) :
    (source.row? source.allReplies[i]).isSome = true ∨ i = 0 ∧ source.allReplies[i] = .done := by
  rcases source.allReplies_cases with
    ⟨_, _, all⟩ | ⟨_, _, _, all⟩ | ⟨_, he, all⟩
  · simp [all] at hi
  · simp [all] at hi
  · cases i with
    | zero => simpa [all] using row?_of_no_error he
    | succ i =>
        have hi : i + 1 < (source.replies source.answers.tail).length := by simpa [all] using hi
        left
        simpa [all] using replies_before hi

/-- The last answer is no row. -/
theorem allReplies_last {last : RowAnswer} (h : last ∈ source.allReplies.getLast?) :
    source.row? last = none := by
  rcases source.allReplies_cases with
    ⟨_, _, all⟩ | ⟨_, _, he, all⟩ | ⟨_, _, all⟩
  · simp [all] at h
  · have : source.firstReply = last := by simpa [all] using h
    subst this
    exact row?_of_errorAt (by rw [he]; rfl)
  · rw [all, List.getLast?_eq_some_getLast (List.cons_ne_nil _ _),
      List.getLast_cons replies_ne_nil] at h
    cases h
    exact replies_last

/-- A result that is started is asked for a row, and for another one if there was none. -/
theorem allReplies_length (hs : source.startError = none) : source.allReplies ≠ [] ∧
    (source.firstReply = .done → 2 ≤ source.allReplies.length) := by
  rcases source.allReplies_cases with
    ⟨_, h, _⟩ | ⟨_, _, he, all⟩ | ⟨_, _, all⟩
  · cases hs.symm.trans h
  · rw [all]
    refine ⟨List.cons_ne_nil _ _, fun first => ?_⟩
    rw [first] at he
    cases he
  · rw [all]
    exact ⟨List.cons_ne_nil _ _, fun _ =>
      Nat.succ_le_succ (List.length_pos_iff.2 replies_ne_nil)⟩

/-! ## What is told -/

theorem length_of_row? {values : List Value} (h : source.row? answer = some values) :
    values.length = source.columns.length := by
  cases answer with
  | row cells =>
      cases hv : source.values cells with
      | ok read =>
          rw [row?_read hv] at h
          cases h
          exact Session.values_length hv
      | error message =>
          rw [row?_unread hv] at h
          cases h
  | done => cases h
  | error message => cases h

/-- What does not depend on a position is read off the list. -/
theorem map_zipIdx_fst {α β : Type} (l : List α) (f : α → β) :
    l.zipIdx.map (fun x => f x.1) = l.map f := by
  rw [← Function.comp_def, ← List.map_map, List.zipIdx_map_fst]

theorem describes (source : RowSource) (describing : Describing) :
    Describes describing source.columns source.oids (source.description describing) := by
  have length : source.oids.length = source.columns.length := Session.columnOids_length _ _
  unfold Describes description
  split
  · rfl
  · refine ⟨_, rfl, by simp [length], ?_, ?_⟩
    · rw [List.map_map]
      refine (map_zipIdx_fst _ fun x : EngineColumn × TypeOid => x.1.name).trans ?_
      rw [← Function.comp_def, ← List.map_map, List.map_fst_zip length.ge]
    · rw [List.map_map]
      refine (map_zipIdx_fst _ fun x : EngineColumn × TypeOid => x.2).trans ?_
      exact List.map_snd_zip length.le

theorem told (source : RowSource) (sql : String) (describing : Describing) :
    Told sql describing source.columns source.rows (source.messages sql describing)
      (Engine.verdict source.error? ()) := by
  have described := source.describes describing
  have length : source.oids.length = source.columns.length := Session.columnOids_length _ _
  rcases source.allReplies_cases with
    ⟨message, hs, all⟩ | ⟨message, hs, he, all⟩ | ⟨hs, he, all⟩
  · have error : source.error? = some message := by simp [error?, hs]
    have silent : source.messages sql describing = [] := by simp [messages, hs]
    rw [error, silent]
    exact .nothing _ (by simp [rows, all])
  · have error : source.error? = some message := by simp [error?_started hs, he]
    have silent : source.messages sql describing = [] := by simp [messages, he]
    have none : source.row? source.firstReply = none := row?_of_errorAt (by rw [he]; rfl)
    rw [error, silent]
    exact .nothing _ (by simp [rows, all, none])
  · have spoken : source.messages sql describing = source.description describing ++
        source.rows.map (rowMessage source.oids) ++ source.completion sql := by
      simp [messages, hs, he]
    rw [spoken, completion]
    cases source.error? with
    | some message =>
        rw [Option.isSome_some, if_pos rfl, List.append_nil]
        exact .part _ described length
    | none => exact .whole described length fun hk hn => rowsOfTag?_commandTag hk hn

end RowSource

/-- Whatever is told of a result, other than its end, has an entry for each column. -/
theorem Told.entries {sql : String} {describing : Describing} {columns : List EngineColumn}
    {rows : List (List Value)} {ms : List BackendMessage} {result : Except Diagnostic Unit}
    (h : Told sql describing columns rows ms result)
    (hr : ∀ values ∈ rows, values.length = columns.length) {m : BackendMessage} (hm : m ∈ ms) :
    (∃ tag, m = .commandComplete tag) ∨ m.entries = columns.length := by
  have described {oids : List TypeOid} {description : List BackendMessage}
      (hd : Describes describing columns oids description) (hm : m ∈ description) :
      m.entries = columns.length := by
    unfold Describes at hd
    split at hd
    · simp [hd] at hm
    · obtain ⟨fields, rfl, length, -⟩ := hd
      cases List.mem_singleton.1 hm
      exact length
  have row {oids : List TypeOid} (ho : oids.length = columns.length)
      (hm : m ∈ rows.map (RowSource.rowMessage oids)) : m.entries = columns.length := by
    obtain ⟨values, hv, rfl⟩ := List.mem_map.1 hm
    simp [RowSource.rowMessage, BackendMessage.entries, hr values hv, ho]
  cases h with
  | nothing => cases hm
  | part report hd ho =>
      rcases List.mem_append.1 hm with hm | hm
      · exact .inr (described hd hm)
      · exact .inr (row ho hm)
  | @whole oids description tag hd ho ht =>
      rcases List.mem_append.1 hm with hm | hm
      · rcases List.mem_append.1 hm with hm | hm
        · exact .inr (described hd hm)
        · exact .inr (row ho hm)
      · exact .inl ⟨tag, List.mem_singleton.1 hm⟩

namespace Session

variable {s : Session} {sql : String} {params : List Value} {describing : Describing}

theorem streamStatement_refused {message : String}
    (h : (s.engine.prepare sql).1 = .error message) :
    streamStatement sql params describing s =
      (.ok (.error (Engine.report message)), { s with engine := (s.engine.prepare sql).2 }) := by
  unfold streamStatement
  rw [Running.bind_apply, surely_ask_apply]
  dsimp only
  rw [h]
  rfl

theorem streamStatement_returning (params : List Value) (describing : Describing)
    {source : RowSource}
    (h : (s.engine.prepare sql).1 = .ok (.returning source)) :
    streamStatement sql params describing s =
      streamRows sql params describing source { s with engine := (s.engine.prepare sql).2 } := by
  generalize ht : { s with engine := (s.engine.prepare sql).2 } = t
  unfold streamStatement
  rw [Running.bind_apply, surely_ask_apply]
  dsimp only
  rw [h, ht]
  rfl

theorem prepare_performed (s : Session) (sql : String) :
    Performed s [.asked (.prepare sql)] { s with engine := (s.engine.prepare sql).2 } :=
  .asked (Engine.prepare_calls sql s.engine) rfl rfl

/-- A statement with columns is prepared and takes the course of its result. -/
theorem streamStatement_takes (params : List Value) (describing : Describing)
    {source : RowSource}
    (h : (s.engine.prepare sql).1 = .ok (.returning source)) :
    Takes s (streamStatement sql params describing)
      (.asked (.prepare sql) :: source.course sql params describing)
      (Engine.verdict source.error? ()) := by
  have course := (streamRows_follows sql params describing source).takes
    { s with engine := (s.engine.prepare sql).2 }
  have run := streamStatement_returning params describing h
  exact course.imp (fun ⟨u, hx, hu⟩ => ⟨u, run.trans hx, (prepare_performed s sql).trans hu⟩)
    fun ⟨e, u, hx, hu⟩ => ⟨e, u, run.trans hx, (prepare_performed s sql).brokeOff hu⟩

/-- A session does not break off between its first calls, with nothing to be told. -/
theorem exists_before {front : List EngineCall} {rest before after : List Deed} {m : BackendMessage}
    (h : front.map .asked ++ rest = before ++ .said m :: after) :
    ∃ before', before = front.map .asked ++ before' ∧ rest = before' ++ .said m :: after := by
  rcases List.append_eq_append_iff.1 h with h | ⟨between, hf, hm⟩
  · exact h
  · cases between with
    | nil => exact ⟨[], by simp [hf], hm.symm⟩
    | cons deed between =>
        have said : deed = .said m := (List.cons.inj hm).1.symm
        have asked : deed ∈ front.map Deed.asked := by simp [hf]
        obtain ⟨call, -, hc⟩ := List.mem_map.1 asked
        cases hc.trans said

/-- The calls that are known in front are made, and of the others those up to where the session
breaks off. -/
theorem Takes.calls {α : Type} {x : Running α} (front : List EngineCall) {rest : List Deed}
    {result : Except Diagnostic α} (h : Takes s x (front.map .asked ++ rest) result) :
    ∃ calls, (x s).2.engine.calls = calls.reverse ++ (front.reverse ++ s.engine.calls) ∧
      calls <+: Deed.calls rest ∧ ∀ r, (x s).1 = .ok r → r = result ∧ calls = Deed.calls rest := by
  rcases h with ⟨u, hx, hu⟩ | ⟨e, u, hx, before, m, after, hd, hu, -⟩
  · rw [hx]
    refine ⟨Deed.calls rest, by simp [hu.calls], List.prefix_rfl, ?_⟩
    rintro r ⟨⟩
    exact ⟨rfl, rfl⟩
  · obtain ⟨before, rfl, rfl⟩ := exists_before hd
    rw [hx]
    refine ⟨Deed.calls before, by simp [hu.calls], ?_, by rintro r ⟨⟩⟩
    rw [Deed.calls_append]
    exact List.prefix_append ..

/-- A statement with columns is either refused, with nothing told, or it takes its course: the rows
are asked for one after the other, none that can be read is left out, and each has a value for each
column, as its description has a field. It fails if the engine answers with an error, and otherwise
the tag at the end tells how many rows there are. What is not done of this is what follows on a
message that could not be sent. -/
theorem result_described_and_counted (sql : String) (params : List Value) (describing : Describing)
    {s : Session} (h : ∀ rows error, (s.engine.prepare sql).1 ≠ .ok (.changing rows error)) :
    ∃ deeds result, Takes s (streamStatement sql params describing) deeds result ∧
      ((∃ message, (s.engine.prepare sql).1 = .error message ∧ deeds = [.asked (.prepare sql)] ∧
          result = .error (Engine.report message)) ∨
        ∃ (source : RowSource) (asked : List RowAnswer),
          (s.engine.prepare sql).1 = .ok (.returning source) ∧
          result = Engine.verdict source.error? () ∧
          Deed.calls deeds = .prepare sql :: .query params :: asked.map .next ∧
          (∀ i (hi : i < asked.length), asked[i] = source.answers.getD i .done) ∧
          (∀ i (hi : i + 1 < asked.length),
            (source.row? asked[i]).isSome = true ∨ asked[i] = .done) ∧
          Told sql describing source.columns (asked.filterMap source.row?) (Deed.messages deeds)
            result ∧
          ∀ m ∈ Deed.messages deeds,
            ((∃ tag, m = .commandComplete tag) ∨ m.entries = source.columns.length) ∧
            (source.columns.length ≤ 32767 → m.received = m)) := by
  cases hp : (s.engine.prepare sql).1 with
  | error message =>
      exact ⟨_, _, .inl ⟨_, streamStatement_refused hp, prepare_performed s sql⟩,
        .inl ⟨message, rfl, rfl, rfl⟩⟩
  | ok prepared =>
      cases prepared with
      | changing rows error => exact absurd hp (h rows error)
      | returning source =>
          have told : Told sql describing source.columns source.rows
              (Deed.messages (.asked (.prepare sql) :: source.course sql params describing))
              (Engine.verdict source.error? ()) := by
            rw [Deed.messages_asked, RowSource.course_messages]
            exact source.told sql describing
          have width : ∀ values ∈ source.rows, values.length = source.columns.length := by
            intro values hv
            obtain ⟨answer, -, ha⟩ := List.mem_filterMap.1 hv
            exact RowSource.length_of_row? ha
          refine ⟨_, _, streamStatement_takes params describing hp,
            .inr ⟨source, source.allReplies, rfl, rfl,
              by rw [Deed.calls_asked, RowSource.course_calls],
              fun i hi => RowSource.allReplies_getElem hi,
              fun i hi => (RowSource.allReplies_before hi).imp_right And.right, told,
              fun m hm => ?_⟩⟩
          have entries := told.entries width hm
          refine ⟨entries, fun hc => (BackendMessage.received_eq_iff m).2 ?_⟩
          rcases entries with ⟨tag, rfl⟩ | entries
          · exact Nat.zero_le _
          · exact entries.trans_le hc

theorem result_described_and_counted_two_rows :
    let source : RowSource := ⟨[⟨"a", none⟩, ⟨"b", some "TEXT"⟩], none,
      [.row [.value (.integer 1), .value (.text "x")], .row [.value .null, .value (.text "y")]]⟩
    let s := opened { databasePath := "" } 1 2 { answers := [.rows source] }
    (∀ rows error, (s.engine.prepare "SELECT a, b FROM t").1 ≠ .ok (.changing rows error)) ∧
      ∃ deeds result, Takes s (streamStatement "SELECT a, b FROM t" [] .simple) deeds result ∧
        result = .ok () ∧
        Deed.messages deeds = [
          .rowDescription [.ofType "a" 1 TypeOid.int8 8, .ofType "b" 2 TypeOid.text (-1)],
          .dataRow [some (Bytes.ofText "1"), some (Bytes.ofText "x")],
          .dataRow [none, some (Bytes.ofText "y")], .commandComplete "SELECT 2"] := by
  intro source s
  have returning : ∀ rows error,
      (s.engine.prepare "SELECT a, b FROM t").1 ≠ .ok (.changing rows error) :=
    fun _ _ h => nomatch h
  have run : (streamStatement "SELECT a, b FROM t" [] .simple s).1 = .ok (.ok ()) ∧
      (streamStatement "SELECT a, b FROM t" [] .simple s).2.sent = ([
          .rowDescription [.ofType "a" 1 TypeOid.int8 8, .ofType "b" 2 TypeOid.text (-1)],
          .dataRow [some (Bytes.ofText "1"), some (Bytes.ofText "x")],
          .dataRow [none, some (Bytes.ofText "y")],
          .commandComplete "SELECT 2"].map Outgoing.message).reverse ++ s.sent := by
    decide +kernel
  obtain ⟨deeds, result, takes, -⟩ :=
    result_described_and_counted "SELECT a, b FROM t" [] .simple returning
  obtain ⟨done, performed⟩ := takes.performed run.1
  exact ⟨returning, deeds, result, takes, done.symm, performed.messages_eq run.2⟩

/-- Behind the call that starts it, a result is asked for its rows, for all of them unless the
session breaks off. -/
theorem streamStatement_asks (params : List Value) (describing : Describing)
    {source : RowSource}
    (h : (s.engine.prepare sql).1 = .ok (.returning source)) :
    ∃ asked, (streamStatement sql params describing s).2.engine.calls =
        (asked.map .next).reverse ++ .query params :: .prepare sql :: s.engine.calls ∧
      asked <+: source.allReplies ∧
      ∀ result, (streamStatement sql params describing s).1 = .ok result →
        asked = source.allReplies := by
  obtain ⟨rest, course⟩ : ∃ rest, source.course sql params describing =
    .asked (.query params) :: rest := ⟨_, rfl⟩
  have all := source.course_calls sql params describing
  rw [course, Deed.calls_asked] at all
  have takes := streamStatement_takes params describing h
  rw [course] at takes
  obtain ⟨calls, made, front, ended⟩ :=
    Takes.calls [.prepare sql, .query params] takes
  rw [(List.cons.inj all).2] at front ended
  obtain ⟨asked, short, rfl⟩ := List.prefix_map_iff.1 front
  exact ⟨asked, made, short, fun result hr =>
    (List.map_inj_right fun _ _ => EngineCall.next.inj).1 (ended result hr).2⟩

/-- The rows of a statement with columns are asked for up to the first answer that is final, or is a
row that cannot be read, and not behind it; but where that is the first answer and it is the end, a
row is asked for once more, and on from there. -/
theorem rows_asked_to_the_end (sql : String) (params : List Value) (describing : Describing)
    {s : Session} {source : RowSource} (h : (s.engine.prepare sql).1 = .ok (.returning source)) :
    ∃ asked : List RowAnswer, (streamStatement sql params describing s).2.engine.calls =
        (asked.map .next).reverse ++ .query params :: .prepare sql :: s.engine.calls ∧
      (∀ i (hi : i < asked.length), asked[i] = source.answers.getD i .done) ∧
      (∀ i (hi : i + 1 < asked.length), asked[i].isFinal = true → i = 0 ∧ asked[i] = .done) ∧
      ∀ result, (streamStatement sql params describing s).1 = .ok result →
        source.startError = none →
          (∃ last, asked.getLast? = some last ∧ (last.isFinal = true ∨
            ∃ cells message, last = .row cells ∧ source.values cells = .error message)) ∧
          (source.answers.headD .done = .done → 2 ≤ asked.length) := by
  obtain ⟨asked, calls, short, ended⟩ :=
    streamStatement_asks params describing h
  refine ⟨asked, calls, fun i hi => ?_, fun i hi hf => ?_, fun result hr hs => ?_⟩
  · rw [short.getElem hi]
    exact RowSource.allReplies_getElem _
  · have within : i + 1 < source.allReplies.length := hi.trans_le short.length_le
    rw [short.getElem] at hf ⊢
    refine (RowSource.allReplies_before within).resolve_left fun row => ?_
    rw [RowSource.row?_eq_none_iff.2 (.inl hf)] at row
    cases row
  · obtain rfl := ended result hr
    obtain ⟨some, second⟩ := RowSource.allReplies_length hs
    have last := List.getLast?_eq_some_getLast some
    exact ⟨⟨_, last, RowSource.row?_eq_none_iff.1 (RowSource.allReplies_last last)⟩, second⟩

theorem rows_asked_to_the_end_of_two :
    let source : RowSource := ⟨[⟨"x", none⟩], none, [.row [.value (.integer 1)], .row []]⟩
    let s := opened { databasePath := "" } 1 2 { answers := [.rows source] }
    (s.engine.prepare "SELECT x").1 = .ok (.returning source) ∧
      ∃ asked : List RowAnswer, (streamStatement "SELECT x" [] .simple s).2.engine.calls =
          (asked.map .next).reverse ++ .query [] :: .prepare "SELECT x" :: s.engine.calls ∧
        (∀ i (hi : i + 1 < asked.length), asked[i].isFinal = true → i = 0 ∧ asked[i] = .done) ∧
        asked = [.row [.value (.integer 1)], .row [], .done] := by
  intro source s
  have prepared : (s.engine.prepare "SELECT x").1 = .ok (.returning source) := rfl
  have run : (streamStatement "SELECT x" [] .simple s).2.engine.calls =
      ([.row [.value (.integer 1)], .row [], .done].map .next).reverse ++
        .query [] :: .prepare "SELECT x" :: s.engine.calls := by decide +kernel
  obtain ⟨asked, calls, -, before, -⟩ := rows_asked_to_the_end "SELECT x" [] .simple prepared
  refine ⟨prepared, asked, calls, before, ?_⟩
  have same := List.append_cancel_right (calls.symm.trans run)
  exact (List.map_inj_right fun _ _ => EngineCall.next.inj).1 (List.reverse_inj.1 same)

/-- An engine without a row says so twice. -/
theorem end_of_rows_asked_twice :
    let source : RowSource := ⟨[⟨"x", none⟩], none, []⟩
    let s := opened { databasePath := "" } 1 2 { answers := [.rows source] }
    (s.engine.prepare "SELECT x").1 = .ok (.returning source) ∧
      (streamStatement "SELECT x" [] .simple s).2.engine.calls =
        .next .done :: .next .done :: .query [] :: .prepare "SELECT x" :: s.engine.calls ∧
      RowAnswer.done.isFinal = true := by
  decide +kernel

end Session

end SqlWire
