import Mathlib.Data.Nat.Digits.Defs
import SqlWire.Proofs.Server.Endings
import SqlWire.Proofs.Wire.Carried

/-!
# What a statement comes to

A statement fails exactly if the engine answers it with an error, or if it is one that an aborted
transaction does not take. That holds as long as everything that has to be said of the answer can be
put on the wire: `EngineAnswer.Fits` says what that is, and `TagFits` that the statement itself can
be named.
-/

namespace SqlWire

def BackendMessage.Sendable (m : BackendMessage) : Prop :=
  ∃ bytes, m.encode = .ok bytes

instance (m : BackendMessage) : Decidable m.Sendable :=
  match h : m.encode with
  | .ok bytes => isTrue ⟨bytes, h⟩
  | .error _ => isFalse fun ⟨_, hb⟩ => nomatch h.symm.trans hb

theorem BackendMessage.sendable_iff (m : BackendMessage) :
    m.Sendable ↔ (∀ text ∈ m.texts, (0 : UInt8) ∉ Bytes.ofText text) ∧
      ∀ raw, m.body = .ok raw → raw.length ≤ Frame.maxBody := by
  unfold Sendable encode
  rw [exists_ok_of_bind, ← m.exists_body]
  simp only [Frame.exists_tagged]
  constructor
  · rintro ⟨raw, hb, hl⟩
    refine ⟨⟨raw, hb⟩, fun raw' hb' => ?_⟩
    rw [hb] at hb'
    cases hb'
    exact hl
  · rintro ⟨⟨raw, hb⟩, hl⟩
    exact ⟨raw, hb, hl raw hb⟩

def failureOf {ε α : Type} : Except ε α → Option ε
  | .ok _ => none
  | .error e => some e

/-! ## What an engine answers -/

namespace RowSource

def errorAt? (source : RowSource) : RowAnswer → Option String
  | .done => none
  | .error message => some message
  | .row cells => failureOf (source.values cells)

def rowsError? (source : RowSource) : List RowAnswer → Option String
  | [] | .done :: _ => none
  | answer :: rest => (source.errorAt? answer).or (source.rowsError? rest)

/-- The error of a statement with columns. The first row is asked for in front of the others, and
they are asked for even if there is none. -/
def error? (source : RowSource) : Option String :=
  source.startError.or
    ((source.errorAt? (source.answers.headD .done)).or (source.rowsError? source.answers.tail))

end RowSource

namespace EngineAnswer

def error? : EngineAnswer → Option String
  | .error message _ => some message
  | .affected _ runError => runError
  | .rows source => if source.columns.isEmpty then source.startError else source.error?

def refusal? : EngineAnswer → Option String
  | .error message _ => some message
  | _ => none

def count : EngineAnswer → Nat
  | .error .. => 0
  | .affected n _ => n
  | .rows source => source.answers.length

/-- What a session has to say of the answer can be put on the wire: its error as a report, and its
columns and each of its rows, whichever types the first row gives the columns. -/
structure Fits (a : EngineAnswer) : Prop where
  error : ∀ message, a.error? = some message →
    (BackendMessage.errorResponse (Engine.report message)).Sendable
  columns : ∀ source first, a = .rows source →
    (Session.describeColumns source.columns (Session.columnOids source.columns first)).Sendable
  row : ∀ source first cells values, a = .rows source → .row cells ∈ source.answers →
    source.values cells = .ok values → (BackendMessage.dataRow (values.zipWith
      (fun v oid => v.toResult oid) (Session.columnOids source.columns first))).Sendable
  counted : a.count ≤ Decimal.word64Max

theorem error_of_refusal {a : EngineAnswer} {message : String} (h : a.refusal? = some message) :
    a.error? = some message := by
  cases a with
  | error text state => exact h
  | _ => cases h

end EngineAnswer

namespace Engine

variable (e : Engine) (sql : String)

theorem answers_answer : e.answer.2.answers = e.answers.tail := by
  unfold answer
  cases he : e.answers with
  | nil => exact he
  | cons a rest => rfl

theorem answer_note (call : EngineCall) : (e.note call).answer.1 = e.answer.1 := by
  unfold answer note
  cases e.answers with
  | nil => rfl
  | cons a rest => rfl

theorem answers_note (call : EngineCall) : (e.note call).answer.2.answers = e.answers.tail :=
  answers_answer _

theorem execute_answers : (e.execute sql).2.answers = e.answers.tail := by
  rw [← e.answers_note (.execute sql)]
  unfold execute
  split
  · next heq => rw [heq]
  · next heq => rw [heq]

theorem execute_refusal : failureOf (e.execute sql).1 = e.answer.1.refusal? := by
  rw [← e.answer_note (.execute sql)]
  unfold execute
  rcases (e.note (.execute sql)).answer with ⟨_ | _ | _, e'⟩ <;> rfl

theorem prepare_answers : (e.prepare sql).2.answers = e.answers.tail := by
  rw [← e.answers_note (.prepare sql)]
  unfold prepare
  rcases (e.note (.prepare sql)).answer with ⟨_ | _ | source, e'⟩
  · rfl
  · rfl
  · dsimp only
    split <;> rfl

/-- What a statement turns out to be, from the engine's answer. -/
theorem prepare_eq : (e.prepare sql).1 = match e.answer.1 with
    | .error message _ => .error message
    | .affected rows runError => .ok (.changing rows runError)
    | .rows source => .ok (if source.columns.isEmpty then .changing 0 source.startError
        else .returning source) := by
  rw [← e.answer_note (.prepare sql)]
  unfold prepare
  rcases (e.note (.prepare sql)).answer with ⟨_ | _ | source, e'⟩
  · rfl
  · rfl
  · dsimp only
    split <;> rfl

theorem leave_answers : (e.leave sql).2.answers ⊆ e.answers.tail := by
  unfold leave
  dsimp only
  split
  · rw [execute_answers, execute_answers]
    exact fun _ h => List.mem_of_mem_tail h
  · rw [execute_answers]
    exact fun _ h => h

theorem leave_refusal : failureOf (e.leave sql).1 = e.answer.1.refusal? :=
  e.execute_refusal sql

end Engine

/-! ## What a client says -/

def TagFits (sql : String) : Prop :=
  ∀ rows ≤ Decimal.word64Max, (BackendMessage.commandComplete (commandTag sql rows)).Sendable

/-- A number in decimal has no NUL, and no more bytes than digits. -/
theorem Bytes.ofText_toString {n : Nat} (hn : n ≤ Decimal.word64Max) :
    (0 : UInt8) ∉ ofText (toString n) ∧ (ofText (toString n)).length ≤ 20 := by
  have digit {c : Char} (h : c ∈ Nat.toDigits 10 n) : 48 ≤ c.toNat ∧ c.toNat ≤ 57 := by
    have := Nat.isDigit_of_mem_toDigits (by decide) (by decide) h
    simpa [Char.isDigit, UInt32.le_iff_toNat_le] using this
  have ascii (c : Char) (h : c ∈ Nat.toDigits 10 n) : c.toNat < 128 := by
    have := digit h
    omega
  rw [Nat.toString_eq_repr, Nat.repr_eq_ofList_toDigits, ofText_ascii ascii]
  constructor
  · intro h
    obtain ⟨c, hc, h0⟩ := List.mem_map.1 h
    have code := congrArg UInt8.toNat h0
    rw [UInt8.toNat_ofNat'] at code
    change c.toNat % 256 = 0 at code
    have := digit hc
    omega
  · rw [List.length_map]
    exact Nat.toDigits_length 10 n 20 (by decide) (Nat.lt_of_le_of_lt hn (by decide))

/-- A tag can be put on the wire if it has no NUL and is short enough. -/
theorem tag_sendable {tag : String} (hn : (0 : UInt8) ∉ Bytes.ofText tag)
    (hl : (Bytes.ofText tag).length < Frame.maxBody) :
    (BackendMessage.commandComplete tag).Sendable := by
  refine (BackendMessage.sendable_iff _).2 ⟨by simpa [BackendMessage.texts] using hn, ?_⟩
  intro raw hb
  have hb : Bytes.ofTerminated tag = .ok raw := hb
  rw [(Bytes.ofTerminated_eq_ok.1 hb).2, List.length_append]
  exact hl

/-- The name of a finished statement repeats nothing of its text, unless the statement is of a kind
that is named by its first words. -/
theorem tagFits_of_kind {sql : String}
    (h : SqlKind.ofText sql ∉ [.create, .drop, .alter, .other]) : TagFits sql := by
  intro rows hr
  obtain ⟨hn, hl⟩ := Bytes.ofText_toString hr
  have counted (word : String) (hw : (0 : UInt8) ∉ Bytes.ofText word)
      (hs : (Bytes.ofText word).length ≤ 20) :
      (BackendMessage.commandComplete (word ++ toString rows)).Sendable := by
    refine tag_sendable ?_ ?_
    · rw [Bytes.ofText_append, List.mem_append]
      exact fun h => h.elim hw hn
    · rw [Bytes.ofText_append, List.length_append]
      have : 40 < Frame.maxBody := by decide
      omega
  unfold commandTag
  have kind : SqlKind.ofText sql = SqlKind.ofWords (Text.words sql) := rfl
  rw [kind] at h
  dsimp only
  cases hk : SqlKind.ofWords (Text.words sql) with
  | select => exact counted "SELECT " (by decide +kernel) (by decide +kernel)
  | insert => exact counted "INSERT 0 " (by decide +kernel) (by decide +kernel)
  | update => exact counted "UPDATE " (by decide +kernel) (by decide +kernel)
  | delete => exact counted "DELETE " (by decide +kernel) (by decide +kernel)
  | begin | commit | rollback => exact ⟨_, rfl⟩
  | create | drop | alter | other => exact absurd h (by simp [hk])

/-- What a session has to repeat of the message can be put on the wire: the names of its statements,
its parameters if they are refused, and all of it if it is out of place. -/
def FrontendMessage.Fits (m : FrontendMessage) : Prop :=
  match m with
  | .query sql => ∀ statement ∈ Sql.statements sql, TagFits statement
  | .parse _ sql _ => TagFits (Sql.numberedPlaceholders sql)
  | .bind _ _ params => ∀ types e, Session.bindParams types params = .error e →
      (BackendMessage.errorResponse
        (.error SqlState.invalidTextRepresentation e.message)).Sendable
  | .sslRequest | .startup .. | .password _ => (BackendMessage.errorResponse
      (.error SqlState.protocolViolation ("unexpected message " ++ m.shown))).Sendable
  | _ => True

namespace Session

/-! ## What a statement comes to -/

/-- The session serves its client, no write fails, and what it still may have to say can be put on
the wire. -/
structure Persevering (s : Session) : Prop where
  stage : s.stage = .serving
  writes : s.writesLeft = none
  engine : ∀ a ∈ s.engine.answers, a.Fits
  prepared : ∀ p, s.prepared = some p → TagFits (Sql.numberedPlaceholders p.sql)
  portal : ∀ p, s.portal = some p → TagFits (Sql.numberedPlaceholders p.sql)

/-- The error with which the engine answers a statement. An aborted transaction makes nothing of
what the engine says. -/
def engineError? (s : Session) (sql : String) : Option String :=
  if s.aborted then none
  else match SqlKind.ofText sql with
    | .begin => if s.inTransaction then none else s.engine.answer.1.refusal?
    | .commit | .rollback => if s.inTransaction then s.engine.answer.1.refusal? else none
    | _ => s.engine.answer.1.error?

def abortedReport : Diagnostic :=
  .error SqlState.inFailedTransaction
    "current transaction is aborted, commands ignored until end of transaction block"

def verdict? (s : Session) (sql : String) : Option Diagnostic :=
  if s.aborted ∧ (SqlKind.ofText sql).endsTransaction = false then some abortedReport
  else (s.engineError? sql).map Engine.report

/-- Work on a statement fails with this report, or succeeds if there is none. -/
def Fares {α : Type} (P : Session → Prop) (x : Running α) (report : Option Diagnostic)
    (Q : α → Session → Prop) : Prop :=
  Ensures P (ExceptT.run x)
    (fun r s => match r with
      | .ok a => report = none ∧ Q a s
      | .error d => report = some d ∧ Persevering s)
    (fun _ _ => False)

namespace Fares

variable {α β : Type} {P P' : Session → Prop} {Q Q' : α → Session → Prop} {R : β → Session → Prop}
  {v w : Option Diagnostic} {x : Running α} {f : α → Running β}

theorem bind (hx : Fares P x v Q) (hf : ∀ a, Fares (Q a) (f a) w R) :
    Fares P (x >>= f) (v.or w) R := by
  refine Ensures.bind hx fun r => ?_
  cases r with
  | error d => exact Ensures.pure fun s h => ⟨by rw [h.1]; rfl, h.2⟩
  | ok a =>
      constructor
      rintro s ⟨rfl, hs⟩
      exact (hf a).run s hs

/-- Work that cannot fail leaves what it comes to to what follows. -/
theorem next (hx : Fares P x none Q) (hf : ∀ a, Fares (Q a) (f a) w R) : Fares P (x >>= f) w R :=
  hx.bind hf

/-- What cannot fail any more leaves it at what the work before it came to. -/
theorem last (hx : Fares P x v Q) (hf : ∀ a, Fares (Q a) (f a) none R) :
    Fares P (x >>= f) v R := by
  have h := hx.bind hf
  rwa [Option.or_none] at h

theorem pure {a : α} (h : ∀ s, P s → Q a s) : Fares P (Pure.pure a) none Q :=
  ⟨fun s hs => ⟨rfl, h s hs⟩⟩

theorem throw {d : Diagnostic} (h : ∀ s, P s → Persevering s) :
    Fares P (MonadExcept.throw d : Running α) (some d) Q :=
  ⟨fun s hs => ⟨rfl, h s hs⟩⟩

theorem surely {y : Serving α} (h : Ensures P y Q fun _ _ => False) :
    Fares P (Session.surely y) none Q :=
  Ensures.bind h fun _ => Ensures.pure fun _ h => ⟨rfl, h⟩

theorem mono (h : Fares P x v Q) (hP : ∀ s, P' s → P s) (hQ : ∀ a s, Q a s → Q' a s) :
    Fares P' x v Q' := by
  refine Ensures.mono h hP (fun r s => ?_) fun _ _ h => h
  cases r with
  | ok a => exact fun h => ⟨h.1, hQ a s h.2⟩
  | error d => exact fun h => h

theorem get_bind {f : Session → Running α} (h : ∀ t, P t → Fares (· = t) (f t) v Q) :
    Fares P (get >>= f) v Q :=
  ⟨fun s hs => (h s hs).run s rfl⟩

theorem modify {g : Session → Session} {Q : Unit → Session → Prop} (h : ∀ s, P s → Q () (g s)) :
    Fares P (modify g : Running Unit) none Q :=
  ⟨fun s hs => ⟨rfl, h s hs⟩⟩

/-- What is known of the states where it begins is known of the one where it begins. -/
theorem of_eq {s : Session} (hs : P s) (h : Fares P x v Q) : Fares (· = s) x v Q :=
  Ensures.of_eq hs h

/-- A fact that no state bears on may be assumed. -/
theorem of_and {p : Prop} (h : p → Fares P x v Q) : Fares (fun s => p ∧ P s) x v Q :=
  ⟨fun s hs => (h hs.1).run s hs.2⟩

/-- What the engine gave is gone on with, or its error is reported. -/
theorem orReport (result : Except String α) (h : ∀ s, P s → Persevering s) :
    Fares P (Session.orReport result) ((failureOf result).map Engine.report)
      (fun a s => result = .ok a ∧ P s) := by
  cases result with
  | ok a => exact pure fun _ hs => ⟨rfl, hs⟩
  | error message => exact throw h

end Fares

section

variable {s t : Session}

theorem Persevering.of_engine (h : Persevering s) {e : Engine}
    (he : e.answers ⊆ s.engine.answers) : Persevering { s with engine := e } :=
  ⟨h.stage, h.writes, fun a ha => h.engine a (he ha), h.prepared, h.portal⟩

theorem Persevering.answered (h : Persevering s) {e : Engine}
    (he : e.answers = s.engine.answers.tail) : Persevering { s with engine := e } :=
  h.of_engine fun _ ha => List.mem_of_mem_tail (he ▸ ha)

theorem Persevering.said (h : Persevering s) (o : Outgoing) :
    Persevering { s with sent := o :: s.sent } :=
  ⟨h.stage, h.writes, h.engine, h.prepared, h.portal⟩

theorem Persevering.within (h : Persevering s) (inTransaction aborted skipping : Bool) :
    Persevering { s with inTransaction, aborted, skipping } :=
  ⟨h.stage, h.writes, h.engine, h.prepared, h.portal⟩

theorem Persevering.abort (h : Persevering s) : Persevering s.abort :=
  h.within s.inTransaction _ s.skipping

theorem Persevering.left (h : Persevering s) (word : String) : Persevering (s.left word) :=
  (h.of_engine fun _ ha => List.mem_of_mem_tail (s.engine.leave_answers word ha)).within _ _ _

/-- An engine that has no answer left changes nothing. -/
theorem Persevering.answer (h : Persevering s) : s.engine.answer.1.Fits := by
  unfold Engine.answer
  cases ha : s.engine.answers with
  | nil => exact ⟨by simp [EngineAnswer.error?], by simp, by simp, Nat.zero_le _⟩
  | cons a rest => exact h.engine a (ha ▸ List.mem_cons_self)

theorem send_perseveres {m : BackendMessage} (hm : m.Sendable) :
    Ensures Persevering (send m) (fun _ => Persevering) (fun _ _ => False) := by
  constructor
  intro s hs
  obtain ⟨bytes, hb⟩ := hm
  rw [send_eq m hs.writes, hb]
  exact hs.said _

theorem send_fares {m : BackendMessage} (hm : m.Sendable) :
    Fares Persevering (surely (send m)) none fun _ => Persevering :=
  Fares.surely (send_perseveres hm)

theorem note_fares (call : EngineCall) :
    Fares Persevering (surely (ask fun e => ((), e.note call))) none fun _ => Persevering :=
  Fares.surely ⟨fun _ hs => hs.of_engine fun _ h => h⟩

theorem noteNext_fares (answer : RowAnswer) :
    Fares Persevering (surely (noteNext answer)) none fun _ => Persevering :=
  note_fares (.next answer)

/-- A call that uses up an answer. -/
theorem ask_fares (h : Persevering s) {call : Engine → α × Engine}
    (hc : (call s.engine).2.answers = s.engine.answers.tail) :
    Fares (· = s) (surely (ask call)) none
      fun result u => result = (call s.engine).1 ∧ Persevering u := by
  refine Fares.surely ⟨fun u hu => ?_⟩
  subst hu
  exact ⟨rfl, h.answered hc⟩

/-! ### Statements with columns -/

section

variable {source : RowSource} {answers : List RowAnswer}

/-- As many rows are counted as the engine gave, unless it fails to give one. -/
theorem sendRows_fares (first : Option (List Value)) (hf : (EngineAnswer.rows source).Fits)
    (ha : answers ⊆ source.answers) (count : Nat) :
    Fares Persevering (sendRows source (columnOids source.columns first) count answers)
      ((source.rowsError? answers).map Engine.report)
      (fun n s => n ≤ count + answers.length ∧ Persevering s) := by
  induction answers generalizing count with
  | nil =>
      exact (noteNext_fares .done).next fun _ => Fares.pure fun _ h => ⟨Nat.le_add_right _ _, h⟩
  | cons answer answers ih =>
      obtain ⟨hm, hrest⟩ := List.cons_subset.1 ha
      refine (noteNext_fares answer).next fun _ => ?_
      cases answer with
      | done => exact Fares.pure fun _ h => ⟨Nat.le_add_right _ _, h⟩
      | error message => exact Fares.throw fun _ h => h
      | row cells =>
          have verdict : (source.rowsError? (.row cells :: answers)).map Engine.report =
              ((failureOf (source.values cells)).map Engine.report).or
                ((source.rowsError? answers).map Engine.report) := Option.map_or
          rw [verdict]
          refine (Fares.orReport (source.values cells) fun _ h => h).bind fun values => ?_
          refine Fares.of_and fun hv => ?_
          have fits := hf.row source first cells values rfl hm hv
          refine (send_fares fits).next
            fun _ => (ih hrest (count + 1)).mono (fun _ h => h) fun n s h => ⟨?_, h.2⟩
          rw [List.length_cons]
          omega

/-- The first row, if there is one, is a row that the engine gave. -/
theorem firstRow_fares (source : RowSource) :
    Fares Persevering (firstRow source)
      ((source.errorAt? (source.answers.headD .done)).map Engine.report)
      (fun first s => (∀ values, first = some values → ∃ cells, .row cells ∈ source.answers ∧
        source.values cells = .ok values) ∧ Persevering s) := by
  unfold firstRow
  refine (noteNext_fares _).next fun _ => ?_
  cases ha : source.answers with
  | nil => exact Fares.pure fun _ h => ⟨by simp, h⟩
  | cons answer answers =>
      rw [List.headD_cons]
      cases answer with
      | done => exact Fares.pure fun _ h => ⟨by simp, h⟩
      | error message => exact Fares.throw fun _ h => h
      | row cells =>
          refine (Fares.orReport (source.values cells) fun _ h => h).last fun values =>
            Fares.pure fun s h => ⟨?_, h.2⟩
          rintro _ ⟨rfl⟩
          exact ⟨cells, List.mem_cons_self, h.1⟩

theorem streamRows_fares {sql : String} (ht : TagFits sql) (hf : (EngineAnswer.rows source).Fits)
    (params : List Value) (describing : Describing) :
    Fares Persevering (streamRows sql params describing source)
      (source.error?.map Engine.report) (fun _ => Persevering) := by
  unfold streamRows RowSource.error?
  refine (note_fares (.query params)).next fun _ => ?_
  cases source.startError with
  | some message => exact Fares.throw fun _ h => h
  | none =>
      rw [Option.none_or, Option.map_or]
      refine (firstRow_fares source).bind fun first => Fares.of_and fun hfirst => ?_
      have rows : Fares Persevering (do
          let count ← sendRows source (columnOids source.columns first)
            (if first.isSome then 1 else 0) source.answers.tail
          surely (send (.commandComplete (commandTag sql count))))
          ((source.rowsError? source.answers.tail).map Engine.report) fun _ => Persevering := by
        have counted : (if first.isSome then 1 else 0) + source.answers.tail.length ≤
            Decimal.word64Max := by
          refine Nat.le_trans ?_ hf.counted
          rw [EngineAnswer.count, List.length_tail]
          cases first with
          | none => simp
          | some values =>
              obtain ⟨cells, hc, -⟩ := hfirst values rfl
              have := List.length_pos_of_mem hc
              simp only [Option.isSome_some, if_true]
              omega
        have sent := sendRows_fares first hf
          (fun _ h => List.mem_of_mem_tail h) (if first.isSome then 1 else 0)
        exact sent.last fun count => Fares.of_and fun hc =>
          send_fares (ht count (Nat.le_trans hc counted))
      have described : Fares Persevering
          (surely (send (describeColumns source.columns (columnOids source.columns first)))) none
          fun _ => Persevering := send_fares (hf.columns source first rfl)
      cases first with
      | none =>
          dsimp only
          split
          · exact described.next fun _ => rows
          · exact rows
      | some values =>
          obtain ⟨cells, hc, hv⟩ := hfirst values rfl
          have row : Fares Persevering
              (surely (sendRow (columnOids source.columns (some values)) values)) none
              fun _ => Persevering := send_fares (hf.row source _ cells values rfl hc hv)
          dsimp only
          split
          · exact described.next fun _ => row.next fun _ => rows
          · exact row.next fun _ => rows

end

theorem runChange_fares {sql : String} (ht : TagFits sql) {rows : Nat}
    (hr : rows ≤ Decimal.word64Max) (params : List Value) (describing : Describing)
    (runError : Option String) :
    Fares Persevering (runChange sql params describing rows runError)
      (runError.map Engine.report) (fun _ => Persevering) := by
  unfold runChange
  refine (note_fares (.step params)).next fun _ => ?_
  cases runError with
  | some message => exact Fares.throw fun _ h => h
  | none =>
      have done : Fares Persevering (surely (send (.commandComplete (commandTag sql rows)))) none
          fun _ => Persevering := send_fares (ht rows hr)
      dsimp only
      split
      · exact (send_fares ⟨_, rfl⟩).next fun _ => done
      · exact done

/-- A statement that is no matter of the transaction fails exactly if the engine's answer does. -/
theorem streamStatement_fares (h : Persevering s) {sql : String} (ht : TagFits sql)
    (params : List Value) (describing : Describing) :
    Fares (· = s) (streamStatement sql params describing)
      (s.engine.answer.1.error?.map Engine.report) (fun _ => Persevering) := by
  unfold streamStatement
  refine (ask_fares h (s.engine.prepare_answers sql)).next fun result => Fares.of_and fun hr => ?_
  rw [hr, s.engine.prepare_eq sql]
  have fits := h.answer
  generalize s.engine.answer.1 = answer at fits ⊢
  rcases answer with ⟨message, state⟩ | ⟨rows, runError⟩ | source
  · exact Fares.throw fun _ h => h
  · have hr : rows ≤ Decimal.word64Max := fits.counted
    exact runChange_fares ht hr params describing runError
  · unfold EngineAnswer.error?
    dsimp only
    split
    · exact runChange_fares ht (Nat.zero_le _) params describing source.startError
    · exact streamRows_fares ht fits params describing

/-! ### Statements of every kind -/

theorem tag_fares {word : String} (hw : word = "BEGIN" ∨ IsEnding word) :
    Fares Persevering (surely (send (.commandComplete word))) none fun _ => Persevering := by
  rcases hw with rfl | rfl | rfl <;> exact send_fares ⟨_, rfl⟩

theorem endTransaction_fares (h : Persevering s) (word : String) :
    Fares (· = s) (endTransaction word) (s.engine.answer.1.refusal?.map Engine.report)
      (fun _ => Persevering) := by
  constructor
  intro u hu
  subst hu
  unfold ExceptT.run
  rw [endTransaction_eq, ← u.engine.leave_refusal word]
  have left : Persevering (u.left word) := h.left word
  cases (u.engine.leave word).1 with
  | ok _ => exact ⟨rfl, left⟩
  | error message => exact ⟨rfl, left⟩

theorem runAborted_fares (h : Persevering s) (kind : SqlKind) :
    Fares (· = s) (runAborted kind)
      (if kind.endsTransaction = false then some abortedReport else none)
      (fun _ => Persevering) := by
  unfold runAborted
  by_cases hk : kind.endsTransaction = true
  · simp only [hk]
    refine Fares.next (Q := fun _ => Persevering) (Fares.surely ⟨fun u hu => ?_⟩) fun _ =>
      tag_fares (.inr (.inr rfl))
    subst hu
    have he : (endTransaction "ROLLBACK").run u = _ := endTransaction_eq "ROLLBACK" u
    rw [he]
    exact h.left "ROLLBACK"
  · simp only [hk]
    exact Fares.throw fun u hu => hu ▸ h

theorem runBegin_fares (h : Persevering s) (sql : String) :
    Fares (· = s) (runBegin sql)
      ((if s.inTransaction then none else s.engine.answer.1.refusal?).map Engine.report)
      (fun _ => Persevering) := by
  unfold runBegin
  refine Fares.get_bind fun t ht => ?_
  subst ht
  by_cases hi : t.inTransaction = true
  · rw [if_pos hi, if_pos hi]
    refine Fares.of_eq h (Fares.next (send_fares ⟨_, rfl⟩) fun _ => tag_fares (.inl rfl))
  · rw [if_neg hi, if_neg hi, ← t.engine.execute_refusal (Sql.engineBegin sql)]
    refine (ask_fares h (t.engine.execute_answers _)).next fun result => Fares.of_and fun hr => ?_
    subst hr
    refine (Fares.orReport _ fun _ h => h).last fun _ => Fares.of_and fun _ => ?_
    exact (Fares.modify fun u h => h.within true u.aborted u.skipping).next fun _ =>
      tag_fares (.inl rfl)

theorem runEnd_fares (h : Persevering s) {word : String} (hw : IsEnding word) :
    Fares (· = s) (runEnd word)
      ((if s.inTransaction then s.engine.answer.1.refusal? else none).map Engine.report)
      (fun _ => Persevering) := by
  unfold runEnd
  refine Fares.get_bind fun t ht => ?_
  subst ht
  by_cases hi : t.inTransaction = true
  · rw [if_pos hi, if_pos hi]
    exact (endTransaction_fares h word).last fun _ => tag_fares (.inr hw)
  · rw [if_neg hi, if_neg hi]
    exact Fares.of_eq h (Fares.next (send_fares ⟨_, rfl⟩) fun _ => tag_fares (.inr hw))

/-- A statement fails exactly if the engine answers it with an error, or if it is one that an
aborted transaction does not take; and whatever it comes to, the session goes on. -/
theorem runStatement_fares (h : Persevering s) {sql : String} (ht : TagFits sql)
    (params : List Value) (describing : Describing) :
    Fares (· = s) (runStatement sql params describing) (s.verdict? sql)
      (fun _ => Persevering) := by
  have streamed : Fares (· = s) (tryCatch (streamStatement sql params describing) fun report => do
      modify abort
      throw report) (s.engine.answer.1.error?.map Engine.report) (fun _ => Persevering) := by
    refine Ensures.bind (streamStatement_fares h ht params describing) fun r => ?_
    cases r with
    | ok a => exact Ensures.pure fun _ h => h
    | error report => exact ⟨fun u hu => ⟨hu.1, hu.2.abort⟩⟩
  unfold runStatement verdict? engineError?
  refine Fares.get_bind fun t ht => ?_
  subst ht
  by_cases ha : t.aborted = true
  · simp only [ha, if_true, true_and, Option.map_none]
    exact runAborted_fares h _
  · simp only [ha]
    cases SqlKind.ofText sql with
    | begin => exact runBegin_fares h sql
    | commit => exact runEnd_fares h (.inl rfl)
    | rollback => exact runEnd_fares h (.inr rfl)
    | _ => exact streamed

/-- The error of a statement is one that the engine's answer holds. -/
theorem engineError_answers {sql message : String} (h : s.engineError? sql = some message) :
    s.engine.answer.1.error? = some message := by
  unfold engineError? at h
  split at h
  · cases h
  · split at h
    · split at h
      · cases h
      · exact EngineAnswer.error_of_refusal h
    · split at h
      · exact EngineAnswer.error_of_refusal h
      · cases h
    · split at h
      · exact EngineAnswer.error_of_refusal h
      · cases h
    · exact h

theorem verdict_of_engineError {sql message : String} (h : s.engineError? sql = some message) :
    s.verdict? sql = some (Engine.report message) := by
  have healthy : s.aborted ≠ true := by
    intro ha
    unfold engineError? at h
    rw [if_pos ha] at h
    cases h
  unfold verdict?
  rw [if_neg fun hv => healthy hv.1, h]
  rfl

/-- The report with which a statement fails can be put on the wire. -/
theorem Persevering.verdict_sendable (h : Persevering s) {sql : String} {report : Diagnostic}
    (hv : s.verdict? sql = some report) : (BackendMessage.errorResponse report).Sendable := by
  unfold verdict? at hv
  split at hv
  · cases hv
    exact ⟨_, rfl⟩
  · obtain ⟨message, hm, rfl⟩ := Option.map_eq_some_iff.1 hv
    exact h.answer.error message (engineError_answers hm)

end

end Session

end SqlWire
