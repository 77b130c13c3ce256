import SqlWire.Proofs.Client.Gathering
import SqlWire.Proofs.Client.Pulling

/-!
# What is left of an answer

A connection that waits for a well-formed rest of an answer can do two things with it: drain it, or
go on reading rows. Both come to the same connection, which is ready for the next request. A row
that is read does not change what draining the rest comes to.
-/

namespace SqlWire

inductive Channel.Offers {σ : Type} [Channel σ] : σ → Bytes → Prop
  | nil (s : σ) : Offers s []
  | chunk {s s' s'' : σ} {bytes w : Bytes} (hb : Channel.bound none s = (none, s'))
      (hr : Channel.receive s' = (.chunk bytes, s'')) (h : Offers s'' w) : Offers s (bytes ++ w)

/-- What the readers of a result pass over once the result has ended. -/
def BackendMessage.isPassed : BackendMessage → Bool
  | rowDescription _ | dataRow _ | commandComplete _ | emptyQueryResponse | errorResponse _ => true
  | _ => false

inductive Aftermath : List BackendMessage → Prop
  | aside {m : BackendMessage} {ms : List BackendMessage} (hm : m.isAside = true)
      (h : Aftermath ms) : Aftermath (m :: ms)
  | passed {m : BackendMessage} {ms : List BackendMessage} (hm : m.isPassed = true)
      (h : Aftermath ms) : Aftermath (m :: ms)
  | ready (status : TransactionStatus) : Aftermath [.readyForQuery status]

/-- What is left of an answer amidst the rows of its first result, which have so many values. -/
inductive Remainder (width : Nat) : List BackendMessage → Prop
  | aside {m : BackendMessage} {ms : List BackendMessage} (hm : m.isAside = true)
      (h : Remainder width ms) : Remainder width (m :: ms)
  | row {values : List (Option Bytes)} {ms : List BackendMessage} (hv : values.length = width)
      (h : Remainder width ms) : Remainder width (.dataRow values :: ms)
  | completed {ms : List BackendMessage} (tag : String) (h : Aftermath ms) :
      Remainder width (.commandComplete tag :: ms)
  | failed {ms : List BackendMessage} (report : Diagnostic) (h : Aftermath ms) :
      Remainder width (.errorResponse report :: ms)

namespace Connection

variable {σ : Type} [Channel σ] {α β : Type} {c d e : Connection σ} {m : BackendMessage}
  {ms : List BackendMessage}

def Awaiting (ms : List BackendMessage) (c : Connection σ) : Prop :=
  ∃ w read rest, Channel.Offers c.channel w ∧ c.buffer ++ w = read ++ rest ∧ Spells read ms

theorem takeDelivery_offered {s s' : σ} {bytes : Bytes}
    (hb : Channel.bound none c.channel = (none, s))
    (hr : Channel.receive s = (.chunk bytes, s')) :
    takeDelivery none c = (.ok (), { c with channel := s', buffer := c.buffer ++ bytes }) := by
  unfold takeDelivery
  rw [hb]
  dsimp only
  rw [hr]
  rfl

/-- A connection that is to be given a whole frame reads until it has it. -/
theorem ripen_offered {w left : Bytes} {frame : Frame} (ho : Channel.Offers c.channel w)
    (hf : Frame.next (c.buffer ++ w) = .ok (some (frame, left))) (hd : c.deadline = none) :
    ∃ d tail w', Alike c d ∧ receive c = receive d ∧
      Frame.next d.buffer = .ok (some (frame, tail)) ∧ Channel.Offers d.channel w' ∧
      tail ++ w' = left := by
  generalize hs : c.channel = s at ho
  induction ho generalizing c with
  | nil s =>
      rw [List.append_nil] at hf
      exact ⟨c, left, [], .refl c, rfl, hf, .nil _, List.append_nil left⟩
  | @chunk s s' s'' bytes w hb hr ho ih =>
      rw [← hs] at hb
      rcases hn : Frame.next c.buffer with e | _ | ⟨frame', tail⟩
      · rw [Frame.next_error_append hn] at hf
        cases hf
      · have fills := (fill_unlimited hd).trans (takeDelivery_offered hb hr)
        have moved : Alike c { c with channel := s'', buffer := c.buffer ++ bytes } :=
          ⟨rfl, rfl, rfl, rfl, rfl, rfl, rfl⟩
        rw [← List.append_assoc] at hf
        obtain ⟨d, tail, w', frame, hreceive, hnext, hoffers, hleft⟩ :=
          ih (c := { c with channel := s'', buffer := c.buffer ++ bytes }) hf hd rfl
        exact ⟨d, tail, w', moved.trans frame, (receive_filled hn fills).trans hreceive, hnext,
          hoffers, hleft⟩
      · rw [Frame.next_append hn] at hf
        simp only [Except.ok.injEq, Option.some.injEq, Prod.mk.injEq] at hf
        obtain ⟨rfl, hleft⟩ := hf
        exact ⟨c, tail, bytes ++ w, .refl c, rfl, hn, hs ▸ .chunk (hs ▸ hb) hr ho, hleft⟩

/-- The connection finds the first message that it waits for; an aside is passed over. -/
theorem receive_awaiting (h : Awaiting (m :: ms) c) (hd : c.deadline = none) :
    ∃ d, Alike c d ∧ Awaiting ms d ∧
      receive c = if m.isAside then receive d else (.ok m, d) := by
  obtain ⟨w, read, rest, ho, hw, hs⟩ := h
  cases hs with
  | @cons _ left frame _ _ taken decoded more =>
      have front : Frame.next (c.buffer ++ w) = .ok (some (frame, left ++ rest)) := by
        rw [hw]
        exact Frame.next_append taken rest
      obtain ⟨d, tail, w', hframe, hreceive, hn, ho, htail⟩ := ripen_offered ho front hd
      have behind (parameters : List (String × String)) :
          Alike c { d with buffer := tail, parameters } ∧
            Awaiting ms { d with buffer := tail, parameters } :=
        ⟨hframe.trans ⟨rfl, rfl, rfl, rfl, rfl, rfl, rfl⟩, w', left, rest, ho, htail, more⟩
      rw [hreceive]
      cases ha : m.isAside with
      | true =>
          obtain ⟨parameters, hr⟩ := receive_aside hn decoded ha
          exact ⟨_, (behind parameters).1, (behind parameters).2, hr⟩
      | false =>
          exact ⟨_, (behind d.parameters).1, (behind d.parameters).2,
            receive_message hn decoded ha⟩

/-- All readers go on from one connection behind the first message. -/
theorem converse_awaiting (h : Awaiting (m :: ms) c) (hd : c.deadline = none) :
    ∃ d, Alike c d ∧ Awaiting ms d ∧ ∀ {α β : Type} (react : α → BackendMessage → Turn σ α β)
      (onFailure : ClientError → Action σ β) (a : α), converse react onFailure a c =
        if m.isAside then converse react onFailure a d
        else match react a m with
          | .expect next => converse react onFailure next d
          | .finish action => action d := by
  obtain ⟨d, hframe, hawaits, hr⟩ := receive_awaiting h hd
  refine ⟨d, hframe, hawaits, ?_⟩
  intro α β react onFailure a
  rw [converse_eq, hr]
  cases m.isAside with
  | true => exact (converse_eq react onFailure a d).symm
  | false => rfl

/-! ## Two readers -/

/-- The connection that an answer leaves behind: it is ready, and bound by the same time limit. -/
structure Rested (c e : Connection σ) : Prop where
  ready : e.status = .ready
  deadline : e.deadline = none
  statementTimeout : e.statementTimeout = c.statementTimeout

omit [Channel σ] in
theorem Rested.alike (h : Rested d e) (hc : Alike c d) : Rested c e :=
  ⟨h.ready, h.deadline, h.statementTimeout.trans hc.statementTimeout⟩

def concluded (status : TransactionStatus) (reported : Bool) (c : Connection σ) : Connection σ :=
  if reported then (c.applyReady status).failTransaction else c.applyReady status

theorem concluded_rested (status : TransactionStatus) (reported : Bool) (hd : c.deadline = none) :
    Rested c (c.concluded status reported) := by
  unfold concluded failTransaction
  split
  · split
    · exact ⟨rfl, hd, rfl⟩
    · exact ⟨rfl, hd, rfl⟩
  · exact ⟨rfl, hd, rfl⟩

theorem passed_not_aside (hm : m.isPassed = true) : m.isAside = false := by
  cases m with
  | rowDescription | dataRow | commandComplete | emptyQueryResponse | errorResponse => rfl
  | _ => cases hm

/-- Behind the first result both readers go on, and both know whether an error was reported. -/
theorem turns_passed (hm : m.isPassed = true) (columns : List Column)
    {error : Option Diagnostic} {answer : Answer} (he : Answer.ended answer = true)
    (hs : answer.error.isSome = error.isSome) :
    ∃ error' answer', settleTurn (σ := σ) error m = .expect error' ∧
      pullTurn (σ := σ) columns answer m = .expect answer' ∧ Answer.ended answer' = true ∧
      answer'.error.isSome = error'.isSome := by
  have ended : (answer.tag.isSome || answer.error.isSome) = true := he
  cases m with
  | rowDescription | dataRow | emptyQueryResponse =>
      exact ⟨error, answer, rfl, by simp only [pullTurn, ended]; rfl, he, hs⟩
  | commandComplete tag =>
      refine ⟨error, _, rfl, rfl, ?_, hs⟩
      cases answer.tag <;> simp [Answer.ended]
  | errorResponse report =>
      exact ⟨some report, _, rfl, rfl, by simp [Answer.ended], rfl⟩
  | _ => cases hm

/-- Behind the first result both readers come to the same connection, and neither to a row. -/
theorem aftermath_read (h : Aftermath ms) (columns : List Column) {error : Option Diagnostic}
    {answer : Answer} (he : Answer.ended answer = true) (hs : answer.error.isSome = error.isSome)
    (ha : Awaiting ms c) (hd : c.deadline = none) :
    ∃ e result, Rested c e ∧ converse settleTurn throw error c = (.ok (), e) ∧
      converse (pullTurn columns) failStream answer c = (result, e) ∧
      ∀ row, result ≠ .ok (.row row) := by
  induction h generalizing c error answer with
  | aside hm _ ih =>
      obtain ⟨d, hframe, had, step⟩ := converse_awaiting ha hd
      obtain ⟨e, result, hrest, hsettle, hpull, hrow⟩ :=
        ih he hs had (hframe.deadline.trans hd)
      refine ⟨e, result, hrest.alike hframe, ?_, ?_, hrow⟩
      · rw [step, if_pos hm, hsettle]
      · rw [step, if_pos hm, hpull]
  | passed hm _ ih =>
      obtain ⟨d, hframe, had, step⟩ := converse_awaiting ha hd
      obtain ⟨error', answer', hsettled, hpulled, he', hs'⟩ :=
        turns_passed (σ := σ) hm columns he hs
      obtain ⟨e, result, hrest, hsettle, hpull, hrow⟩ :=
        ih he' hs' had (hframe.deadline.trans hd)
      refine ⟨e, result, hrest.alike hframe, ?_, ?_, hrow⟩
      · rw [step, passed_not_aside hm, hsettled]
        exact hsettle
      · rw [step, passed_not_aside hm, hpulled]
        exact hpull
  | ready status =>
      obtain ⟨d, hframe, -, step⟩ := converse_awaiting ha hd
      have hrest := concluded_rested status error.isSome (hframe.deadline.trans hd)
      have hsettle : converse settleTurn throw error c =
          (.ok (), d.concluded status error.isSome) := by
        rw [step]
        cases error <;> rfl
      cases hr : answer.error with
      | none =>
          refine ⟨_, .ok (.finished answer.tag), hrest.alike hframe, hsettle, ?_, by simp⟩
          rw [step, ← hs, hr]
          simp only [pullTurn, hr]
          rfl
      | some report =>
          refine ⟨_, .error (.ofReport report), hrest.alike hframe, hsettle, ?_, by simp⟩
          rw [step, ← hs, hr]
          simp only [pullTurn, hr]
          rfl

/-- What the reader of a row comes to, if draining comes to `e`: a row, after which draining still
comes to `e`, or the end of the result at `e`. -/
inductive RowRead (columns : List Column) (c e : Connection σ) :
    Except ClientError Pull × Connection σ → Prop
  | row {row : Row} {d : Connection σ} {ms : List BackendMessage} (frame : Alike c d)
      (rest : Remainder columns.length ms) (awaits : Awaiting ms d)
      (drains : converse settleTurn throw none d = (.ok (), e)) :
      RowRead columns c e (.ok (.row row), d)
  | ended {result : Except ClientError Pull} (hr : ∀ row, result ≠ .ok (.row row)) :
      RowRead columns c e (result, e)

theorem RowRead.alike {columns : List Column} {r : Except ClientError Pull × Connection σ}
    (h : RowRead columns d e r) (hc : Alike c d) : RowRead columns c e r := by
  cases h with
  | row frame rest awaits drains => exact .row (hc.trans frame) rest awaits drains
  | ended hr => exact .ended hr

/-- A message that ends the first result takes both readers behind it. -/
theorem ended_read {columns : List Column} {error : Option Diagnostic} {answer : Answer}
    (hm : m.isAside = false) (hsettled : settleTurn (σ := σ) none m = .expect error)
    (hpulled : pullTurn (σ := σ) columns {} m = .expect answer) (h : Aftermath ms)
    (he : Answer.ended answer = true) (hs : answer.error.isSome = error.isSome)
    (ha : Awaiting (m :: ms) c) (hd : c.deadline = none) :
    ∃ e, Rested c e ∧ converse settleTurn throw none c = (.ok (), e) ∧
      RowRead columns c e (converse (pullTurn columns) failStream {} c) := by
  obtain ⟨d, hframe, had, step⟩ := converse_awaiting ha hd
  obtain ⟨e, result, hrest, hsettle, hpull, hrow⟩ :=
    aftermath_read h columns he hs had (hframe.deadline.trans hd)
  have settles : converse settleTurn throw none c = (.ok (), e) := by
    rw [step, hm, hsettled]
    exact hsettle
  have pulls : converse (pullTurn columns) failStream {} c = (result, e) := by
    rw [step, hm, hpulled]
    exact hpull
  rw [pulls]
  exact ⟨e, hrest.alike hframe, settles, .ended hrow⟩

/-- A well-formed rest of an answer can be drained or read for the next row. -/
theorem remainder_read {columns : List Column} (h : Remainder columns.length ms)
    (ha : Awaiting ms c) (hd : c.deadline = none) :
    ∃ e, Rested c e ∧ converse settleTurn throw none c = (.ok (), e) ∧
      RowRead columns c e (converse (pullTurn columns) failStream {} c) := by
  induction h generalizing c with
  | aside hm _ ih =>
      obtain ⟨d, hframe, had, step⟩ := converse_awaiting ha hd
      obtain ⟨e, hrest, hsettle, hpull⟩ := ih had (hframe.deadline.trans hd)
      refine ⟨e, hrest.alike hframe, ?_, ?_⟩
      · rw [step, if_pos hm, hsettle]
      · rw [step, if_pos hm]
        exact hpull.alike hframe
  | @row values ms hv hrem ih =>
      obtain ⟨d, hframe, had, step⟩ := converse_awaiting ha hd
      obtain ⟨e, hrest, hsettle, -⟩ := ih had (hframe.deadline.trans hd)
      refine ⟨e, hrest.alike hframe, (step _ _ _).trans hsettle, ?_⟩
      · rw [step]
        have htake : takeRow columns values d = (.ok (.row ⟨columns, columns.zipWith
            (fun column raw => Value.ofResult column.type raw) values⟩), d) := by
          unfold takeRow
          rw [if_pos hv]
          rfl
        simp only [BackendMessage.isAside, pullTurn, Option.isSome_none, Bool.or_self,
          Bool.false_eq_true, if_false]
        rw [htake]
        exact .row hframe hrem had hsettle
  | completed tag hafter => exact ended_read rfl rfl rfl hafter rfl rfl ha hd
  | failed report hafter => exact ended_read rfl rfl rfl hafter rfl rfl ha hd

end Connection

end SqlWire
