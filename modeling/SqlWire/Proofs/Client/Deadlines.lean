import SqlWire.Proofs.Client.Rows
import SqlWire.Proofs.Client.Uses

/-!
# Time limits

An operation that is under a time limit counts the time from a first reading of the clock. In
front of every read it looks at the clock again and lets the read wait for as long as is left, and
once it finds nothing left it reads no more. When the operation is done its limit is gone.
-/

namespace SqlWire

inductive TimedCall where
  | send (bytes : Bytes)
  | bound (limit : Option Duration)
  | receive
  | close
  | now (time : Nat)
  deriving DecidableEq, Repr

def TimedCall.time? : TimedCall → Option Nat
  | .now time => some time
  | _ => none

/-- A channel with a record of its calls and of the times that it gave, the latest last. -/
structure Clocked (σ : Type) where
  channel : σ
  record : List TimedCall := []

namespace Clocked

variable {σ α : Type}

def untouched (channel : σ) : Clocked σ := { channel }

def noting (s : Clocked σ) (call : TimedCall) (r : α × σ) : α × Clocked σ :=
  (r.1, { channel := r.2, record := s.record ++ [call] })

theorem behind {s s' : Clocked σ} {call : TimedCall} {r : α × σ} {a : α}
    (h : s.noting call r = (a, s')) : r = (a, s'.channel) := by
  cases h
  rfl

instance [Channel σ] : Channel (Clocked σ) where
  send bytes s := s.noting (.send bytes) (Channel.send bytes s.channel)
  bound limit s := s.noting (.bound limit) (Channel.bound limit s.channel)
  receive s := s.noting .receive (Channel.receive s.channel)
  close s := s.noting .close (Channel.close s.channel)
  now s := s.noting (.now (Channel.now s.channel).1) (Channel.now s.channel)
  pending s := Channel.pending s.channel
  pending_bound limit s := Channel.pending_bound limit s.channel
  pending_now s := Channel.pending_now s.channel
  pending_receive := by
    intro s s' bytes h
    exact Channel.pending_receive (behind h)

/-! ## Calls under a time limit -/

def Forward (calls : List TimedCall) : Prop :=
  (calls.filterMap TimedCall.time?).Pairwise (· ≤ ·)

instance (calls : List TimedCall) : Decidable (Forward calls) :=
  inferInstanceAs (Decidable ((calls.filterMap TimedCall.time?).Pairwise (· ≤ ·)))

def Lapsed (limit : Option Duration) (calls : List TimedCall) : Prop :=
  ∃ d start rest time, limit = some d ∧ calls = .now start :: rest ∧ .now time ∈ rest ∧
    start + d.nanos ≤ time

/-- A read may wait as long as this without going against the time limit. -/
def Within : Option Duration → Option Duration → Prop
  | none, bound => bound = none
  | some d, bound => ∃ r, bound = some r ∧ 0 < r.nanos ∧ r.nanos ≤ d.nanos

/-- After these calls of an operation a read keeps the time limit: its bound was set just now, and
the time is not known to be up, if it is counted. -/
structure MayRead (limit : Option Duration) (calls : List TimedCall) : Prop where
  bounded : ∃ earlier bound, calls = earlier ++ [.bound bound] ∧ Within limit bound
  counted : limit.isSome = true → ∃ start rest, calls = .now start :: rest
  inTime : ¬ Lapsed limit calls

def Timely (limit : Option Duration) (calls : List TimedCall) : Prop :=
  ∀ before after, calls = before ++ .receive :: after → MayRead limit before

/-- The calls of an operation in parts that each have their time counted anew. Where time is up
in one of them nothing is read in the others behind it. -/
structure InTurn (limit : Option Duration) (parts : List (List TimedCall)) : Prop where
  timely : ∀ part ∈ parts, Timely limit part
  stopped : parts.Pairwise fun earlier later => Lapsed limit earlier → .receive ∉ later

/-- The bound of the next read was set just now: without a time limit to none, and otherwise to
what was left when the clock was read just before. -/
inductive Awaits : Option Duration → List TimedCall → Prop
  | unlimited (earlier : List TimedCall) : Awaits none (earlier ++ [.bound none])
  | limited {d : Duration} {start time : Nat} (earlier : List TimedCall)
      (ht : time < start + d.nanos) :
      Awaits (some d) (.now start :: earlier ++
        [.now time, .bound (some ⟨start + d.nanos - time⟩)])

def Paced (limit : Option Duration) (calls : List TimedCall) : Prop :=
  ∀ before after, calls = before ++ .receive :: after →
    Awaits limit before ∧ ¬ Lapsed limit before

variable {limit : Option Duration} {calls : List TimedCall} {call : TimedCall}

theorem paced_nil : Paced limit [] := by
  intro before after h
  simp at h

theorem Paced.snoc (h : Paced limit calls)
    (hc : call = .receive → Awaits limit calls ∧ ¬ Lapsed limit calls) :
    Paced limit (calls ++ [call]) := by
  intro before after he
  rcases List.eq_nil_or_concat after with rfl | ⟨after, last, rfl⟩
  · obtain ⟨rfl, hcall⟩ := List.append_inj' he rfl
    exact hc (List.cons.inj hcall).1
  · rw [List.concat_eq_append, ← List.cons_append, ← List.append_assoc] at he
    exact h before after (List.append_inj' he rfl).1

theorem not_lapsed_nil : ¬ Lapsed limit [] := by
  rintro ⟨d, start, rest, time, -, h, -⟩
  cases h

/-- Only a reading of the clock can show that the time is up. -/
theorem Lapsed.of_snoc (h : Lapsed limit (calls ++ [call]))
    (hc : ∀ d start rest time, limit = some d → calls = .now start :: rest → call = .now time →
      time < start + d.nanos) : Lapsed limit calls := by
  obtain ⟨d, start, rest, time, hl, hcalls, hmem, hlate⟩ := h
  cases calls with
  | nil =>
      cases hcalls
      cases hmem
  | cons first calls =>
      obtain ⟨rfl, rfl⟩ := List.cons.inj hcalls
      refine ⟨d, start, calls, time, hl, rfl, ?_, hlate⟩
      rcases List.mem_append.1 hmem with hm | hm
      · exact hm
      · have hlt := hc d start calls time hl rfl (List.mem_singleton.1 hm).symm
        omega

theorem Forward.le {start time : Nat} {rest : List TimedCall} (h : Forward (.now start :: rest))
    (ht : .now time ∈ rest) : start ≤ time := by
  have later : (start :: rest.filterMap TimedCall.time?).Pairwise (· ≤ ·) := h
  exact (List.pairwise_cons.1 later).1 time (List.mem_filterMap.2 ⟨_, ht, rfl⟩)

/-- Where the clock never goes back, what is left is no more than the time that was allowed. -/
theorem Awaits.mayRead (h : Awaits limit calls) (hl : ¬ Lapsed limit calls)
    (hf : Forward calls) : MayRead limit calls := by
  cases h with
  | unlimited earlier => exact ⟨⟨earlier, none, rfl, rfl⟩, nofun, hl⟩
  | @limited d start time earlier ht =>
      refine ⟨⟨.now start :: earlier ++ [.now time], some ⟨start + d.nanos - time⟩, ?_, _, rfl,
        ?_, ?_⟩, fun _ => ⟨start, _, rfl⟩, hl⟩
      · simp
      · exact Nat.sub_pos_of_lt ht
      · have hle : start ≤ time := hf.le (by simp)
        change start + d.nanos - time ≤ d.nanos
        omega

theorem Forward.sublist {calls' : List TimedCall} (h : Forward calls)
    (hs : List.Sublist calls' calls) : Forward calls' :=
  List.Pairwise.sublist (hs.filterMap _) h

theorem Paced.timely (h : Paced limit calls) (hf : Forward calls) : Timely limit calls := by
  intro before after he
  obtain ⟨ha, hl⟩ := h before after he
  refine ha.mayRead hl (hf.sublist ?_)
  rw [he]
  exact List.sublist_append_left _ _

end Clocked

namespace Connection

open Clocked

section

variable {σ : Type}

def record (c : Connection (Clocked σ)) : List TimedCall :=
  c.channel.record

/-- Under a time limit the clock was read first, and the deadline is as far behind that reading as
the limit allows. -/
inductive DueBy : Option Duration → List TimedCall → Option Deadline → Prop
  | unlimited (calls : List TimedCall) : DueBy none calls none
  | limited (d : Duration) (start : Nat) (rest : List TimedCall) :
      DueBy (some d) (.now start :: rest) (some ⟨start + d.nanos, d⟩)

/-- Behind `base` these calls were made under a time limit. Once the time was known to be up the
connection was given up. -/
structure Made (limit timeout : Option Duration) (base calls : List TimedCall)
    (c : Connection (Clocked σ)) : Prop where
  timeout : c.statementTimeout = timeout
  record : c.record = base ++ calls
  paced : Paced limit calls
  inTime : c.isUsable = true → ¬ Lapsed limit calls

def Held (due : List TimedCall → Option Deadline → Prop) (limit timeout : Option Duration)
    (base : List TimedCall) (c : Connection (Clocked σ)) : Prop :=
  ∃ calls, Made limit timeout base calls c ∧ due calls c.deadline

abbrev During (limit timeout : Option Duration) (base : List TimedCall) :
    Connection (Clocked σ) → Prop :=
  Held (DueBy limit) limit timeout base

abbrev Over (limit timeout : Option Duration) (base : List TimedCall) :
    Connection (Clocked σ) → Prop :=
  Held (fun _ deadline => deadline = none) limit timeout base

def Going (limit timeout : Option Duration) (base : List TimedCall)
    (c : Connection (Clocked σ)) : Prop :=
  During limit timeout base c ∧ c.isUsable = true

/-- An operation begins. -/
structure Before (timeout : Option Duration) (base : List TimedCall)
    (c : Connection (Clocked σ)) : Prop where
  deadline : c.deadline = none
  timeout : c.statementTimeout = timeout
  record : c.record = base

structure SameLimits (c c' : Connection σ) : Prop where
  timeout : c'.statementTimeout = c.statementTimeout
  deadline : c'.deadline = c.deadline
  usable : c'.isUsable = true → c.isUsable = true

variable {limit timeout : Option Duration} {base calls : List TimedCall} {call : TimedCall}
  {deadline : Option Deadline} {due : List TimedCall → Option Deadline → Prop}
  {c c' : Connection (Clocked σ)}

theorem DueBy.snoc (h : DueBy limit calls deadline) : DueBy limit (calls ++ [call]) deadline := by
  cases h with
  | unlimited => exact .unlimited _
  | limited d start rest => exact .limited d start (rest ++ [call])

theorem Made.within (h : Made limit timeout base calls c) (hr : c'.record = c.record)
    (ht : c'.statementTimeout = c.statementTimeout)
    (hu : c'.isUsable = true → c.isUsable = true) : Made limit timeout base calls c' :=
  ⟨ht.trans h.timeout, hr.trans h.record, h.paced, fun hc => h.inTime (hu hc)⟩

/-- One more call was made, which did not show that the time is up, or the connection was given
up. -/
theorem Made.noting (h : Made limit timeout base calls c) (hr : c'.record = c.record ++ [call])
    (ht : c'.statementTimeout = c.statementTimeout)
    (hu : c'.isUsable = true → c.isUsable = true)
    (hread : call = .receive → Awaits limit calls ∧ ¬ Lapsed limit calls)
    (hnow : c'.isUsable = true → ∀ d start rest time, limit = some d →
      calls = .now start :: rest → call = .now time → time < start + d.nanos) :
    Made limit timeout base (calls ++ [call]) c' where
  timeout := ht.trans h.timeout
  record := by rw [hr, h.record, List.append_assoc]
  paced := h.paced.snoc hread
  inTime hc hl := h.inTime (hu hc) (hl.of_snoc (hnow hc))

/-- One more call was made that neither reads nor asks for the time. -/
theorem Made.telling (h : Made limit timeout base calls c) (hr : c'.record = c.record ++ [call])
    (ht : c'.statementTimeout = c.statementTimeout)
    (hu : c'.isUsable = true → c.isUsable = true) (hread : call ≠ .receive)
    (hnow : call.time? = none) : Made limit timeout base (calls ++ [call]) c' := by
  refine h.noting hr ht hu (fun hc => absurd hc hread) ?_
  rintro - d start rest time - - rfl
  cases hnow

section

variable [Channel σ]

theorem absurd_markBroken {c : Connection σ} {p : Prop} (hu : c.markBroken.isUsable = true) :
    p := by
  rw [markBroken_unusable] at hu
  cases hu

theorem markBroken_limits (c : Connection σ) : SameLimits c c.markBroken := by
  refine ⟨?_, ?_, absurd_markBroken⟩
  · unfold markBroken
    split <;> rfl
  · unfold markBroken
    split <;> rfl

theorem markBroken_record (c : Connection (Clocked σ)) : c.markBroken.record = c.record :=
  congrArg Clocked.record (markBroken_channel c)

end

theorem Held.within (h : Held due limit timeout base c) (hs : SameLimits c c')
    (hr : c'.record = c.record) : Held due limit timeout base c' := by
  obtain ⟨calls, hm, hdue⟩ := h
  exact ⟨calls, hm.within hr hs.timeout hs.usable, hs.deadline ▸ hdue⟩

theorem Held.dropped [Channel σ] (h : Held due limit timeout base c) :
    Held due limit timeout base c.markBroken :=
  h.within (markBroken_limits c) (markBroken_record c)

theorem During.telling (call : TimedCall) (h : During limit timeout base c)
    (hs : SameLimits c c') (hr : c'.record = c.record ++ [call]) (hread : call ≠ .receive)
    (hnow : call.time? = none) :
    During limit timeout base c' := by
  obtain ⟨calls, hm, hdue⟩ := h
  exact ⟨calls ++ [call], hm.telling hr hs.timeout hs.usable hread hnow, hs.deadline ▸ hdue.snoc⟩

theorem Over.telling (call : TimedCall) (h : Over limit timeout base c)
    (hs : SameLimits c c') (hr : c'.record = c.record ++ [call]) (hread : call ≠ .receive)
    (hnow : call.time? = none) :
    Over limit timeout base c' := by
  obtain ⟨calls, hm, hd⟩ := h
  exact ⟨calls ++ [call], hm.telling hr hs.timeout hs.usable hread hnow, hs.deadline.trans hd⟩

theorem Before.over (h : Before timeout base c) : Over limit timeout base c :=
  ⟨[], ⟨h.timeout, by simp [h.record], paced_nil, fun _ => not_lapsed_nil⟩, h.deadline⟩

theorem During.over (h : During limit timeout base c) :
    Over limit timeout base { c with deadline := none } := by
  obtain ⟨calls, hm, -⟩ := h
  exact ⟨calls, hm.within rfl rfl id, rfl⟩

end

variable {σ : Type} [Channel σ] {limit timeout : Option Duration} {base calls : List TimedCall}
  {c : Connection (Clocked σ)}

/-- The time is counted from the reading of the clock that an operation starts with. -/
theorem during_started (ht : c.statementTimeout = timeout) (hr : c.record = base) :
    During limit timeout base (c.started limit) := by
  have fresh {d : Connection (Clocked σ)} (ht : d.statementTimeout = timeout)
      (hr : d.record = base) : Made limit timeout base [] d :=
    ⟨ht, by simp [hr], paced_nil, fun _ => not_lapsed_nil⟩
  cases limit with
  | none => exact ⟨[], fresh ht hr, .unlimited []⟩
  | some d =>
      refine ⟨[.now (Channel.now c.channel).1], ?_, .limited d _ []⟩
      exact (fresh ht hr).noting rfl rfl id nofun fun _ d start rest time _ hcalls => nomatch hcalls

/-! ## Exchanges under a time limit -/

theorem send_during (messages : List FrontendMessage) :
    Ensures (Going (σ := σ) limit timeout base) (send messages)
      (fun _ => Going limit timeout base) (fun _ => During limit timeout base) :=
  send_ensures messages (fun h => h.1)
    (fun bytes h => ⟨h.1.telling (.send bytes) ⟨rfl, rfl, id⟩ rfl nofun rfl, h.2⟩)
    fun h => h.1.dropped

/-- A read whose bound was set to what is left keeps to the time limit. -/
theorem takeDelivery_during {bound : Option Duration} (hu : c.isUsable = true)
    (hm : Made limit timeout base calls c) (hdue : DueBy limit calls c.deadline)
    (ha : Awaits limit (calls ++ [.bound bound])) :
    Ends (fun _ => Going limit timeout base) (fun _ => During limit timeout base)
      (takeDelivery bound c) := by
  have bounded : Made limit timeout base (calls ++ [.bound bound])
      { c with channel := (Channel.bound bound c.channel).2 } :=
    hm.telling rfl rfl id nofun rfl
  unfold takeDelivery
  rcases hb : Channel.bound bound c.channel with ⟨_ | f, channel⟩
  · rw [hb] at bounded
    have received : Made limit timeout base (calls ++ [.bound bound] ++ [.receive])
        { c with channel := (Channel.receive channel).2 } :=
      bounded.noting rfl rfl id (fun _ => ⟨ha, bounded.inTime hu⟩) nofun
    have read : During limit timeout base { c with channel := (Channel.receive channel).2 } :=
      ⟨_, received, hdue.snoc.snoc⟩
    dsimp only
    rcases hr : Channel.receive channel with ⟨bytes | _ | f, channel'⟩
    · rw [hr] at read
      exact ⟨read.within ⟨rfl, rfl, id⟩ rfl, hu⟩
    · rw [hr] at read
      exact read.dropped
    · rw [hr] at read
      exact read.dropped
  · rw [hb] at bounded
    have given : During limit timeout base { c with channel } := ⟨_, bounded, hdue.snoc⟩
    exact given.dropped

/-- The time is looked at in front of every read, and once it is up nothing more is read. -/
theorem fill_during :
    Ensures (Going limit timeout base) (fill : Action (Clocked σ) Unit)
      (fun _ => Going limit timeout base) (fun _ => During limit timeout base) := by
  constructor
  rintro c ⟨⟨calls, hm, hdue⟩, hu⟩
  cases hd : c.deadline with
  | none =>
      rw [hd] at hdue
      cases hdue
      rw [fill_unlimited hd]
      exact takeDelivery_during hu hm (hd ▸ .unlimited calls) (.unlimited calls)
  | some deadline =>
      rw [hd] at hdue
      cases hdue with
      | limited d start rest =>
          let time := (Channel.now c.channel).1
          let looked : Connection (Clocked σ) := { c with channel := (Channel.now c.channel).2 }
          rw [fill_limited hd]
          dsimp only
          -- The clock is on record before it is known what it shows.
          split
          · refine ⟨.now start :: rest ++ [.now time], ?_, ?_⟩
            · exact hm.noting (markBroken_record looked) (markBroken_limits looked).timeout
                absurd_markBroken nofun absurd_markBroken
            · rw [(markBroken_limits looked).deadline]
              exact hd ▸ (DueBy.limited d start rest).snoc
          · next hlate =>
              have seen :
                  Made (some d) timeout base (.now start :: rest ++ [.now time]) looked := by
                refine hm.noting rfl rfl id nofun fun _ d' start' rest' time' hd' hs ht => ?_
                cases hd'
                cases hs
                cases ht
                exact Nat.lt_of_not_le hlate
              refine takeDelivery_during (c := looked) hu seen
                (hd ▸ (DueBy.limited d start rest).snoc) ?_
              rw [List.append_assoc]
              exact .limited rest (Nat.lt_of_not_le hlate)

theorem receive_during :
    Ensures (Going limit timeout base) (receive (σ := Clocked σ))
      (fun _ => Going limit timeout base) (fun _ => During limit timeout base) :=
  receive_ensures fill_during (fun _ _ h => ⟨h.1.within ⟨rfl, rfl, id⟩ rfl, h.2⟩)
    fun h => h.1.dropped

def Idling (limit timeout : Option Duration) (base : List TimedCall)
    (c : Connection (Clocked σ)) : Prop :=
  During limit timeout base c ∧ c.status = .ready

theorem readings_during : Readings (σ := Clocked σ) (Going limit timeout base)
    (fun _ => Going limit timeout base) (During limit timeout base) (Idling limit timeout base)
    (During limit timeout base) where
  receive := receive_during.mono (fun _ h => h) (fun _ _ h => by simpa using h) fun _ _ h => h
  applied _ h := ⟨h.1.within ⟨rfl, rfl, fun _ => h.2⟩ rfl, rfl⟩
  failed h := by
    unfold failTransaction
    split
    · exact h
    · exact ⟨h.1.within ⟨rfl, rfl, id⟩ rfl, h.2⟩
  weaken h := h.1
  lost h := h
  dropped h := h.1.dropped
  cut h := (h.elim (fun h => h.1) id).dropped.within ⟨rfl, rfl, id⟩ rfl

omit [Channel σ] in
theorem Idling.going (h : Idling limit timeout base c) : Going limit timeout base c :=
  ⟨h.1, isUsable_of_ready h.2⟩

theorem send_idling (messages : List FrontendMessage) :
    Ensures (Idling (σ := σ) limit timeout base) (send messages)
      (fun _ => Going limit timeout base) (fun _ => During limit timeout base) :=
  (send_during messages).mono (fun _ h => h.going) (fun _ _ h => h) fun _ _ h => h

/-- Every operation sets its time limit, keeps to it and lifts it. -/
theorem bracketed_during (pulled : Nat → Prop) (timeout : Option Duration)
    (base : List TimedCall) :
    Bracketed (σ := Clocked σ) pulled (Before timeout base) (During timeout timeout base)
      (Idling timeout timeout base) (Over timeout timeout base) where
  idle := Before.over
  starts h _ := by
    rw [h.timeout]
    exact during_started h.timeout h.record
  stops := During.over
  weaken h := h.1
  ready h hs := ⟨h, hs⟩
  leaving h _ := h.within ⟨rfl, rfl, id⟩ rfl
  left h _ := h.within ⟨rfl, rfl, id⟩ rfl
  settle := readings_during.drained (fun _ h hs => ⟨h.1, ready_of_usable h.2 hs⟩) fun _ h _ => h
  command sql _ := (send_idling _).bind fun _ => readings_during.command
  pull _ columns _ := (readings_during.pull (fun h => h.1) columns).mono
    (fun _ h => ⟨h.1, by simp [isUsable, h.2]⟩) (fun _ _ h => h) fun _ _ h => h

theorem submit_during (sql : String) (params : List Value) :
    Ensures (Idling (σ := σ) limit timeout base) (submit sql params)
      (fun _ => During limit timeout base) (fun _ => During limit timeout base) :=
  (send_idling _).bind fun _ => readings_during.statement fun _ h =>
    h.1.within ⟨rfl, rfl, fun _ => h.2⟩ rfl

/-- When nothing is going on, what is sent at the end and the end itself read nothing. -/
theorem Over.terminated (h : Over limit timeout base c) :
    Over limit timeout base (send [.terminate] c).2 := by
  have sent : Ensures (Over (σ := σ) limit timeout base) (send [.terminate])
      (fun _ => Over limit timeout base) (fun _ => Over limit timeout base) :=
    send_ensures _ (fun h => h)
      (fun bytes h => h.telling (.send bytes) ⟨rfl, rfl, id⟩ rfl nofun rfl) Held.dropped
  exact sent.state h

theorem Over.shut (h : Over limit timeout base c) : Over limit timeout base c.shut :=
  h.telling .close ⟨rfl, rfl, nofun⟩ rfl nofun rfl

/-- A call of a connection whose deadline is lifted keeps to the time limit for statements and
lifts its deadline. -/
theorem called_over (hd : c.deadline = none) {call : Call}
    (hset : ∀ limit, call ≠ .setStatementTimeout limit) :
    Over c.statementTimeout c.statementTimeout c.record (c.called call) := by
  have bracketed := bracketed_during (σ := σ) (fun _ => True) c.statementTimeout c.record
  have start : Before c.statementTimeout c.record c := ⟨hd, rfl, rfl⟩
  cases call with
  | execute sql params => exact (bracketed.execute_ends (submit_during sql params)).state start
  | nextRow id => exact (bracketed.nextRow_ends id trivial).state start
  | begin level =>
      exact (bracketed.begin_ends (bracketed.command _ (.begin level))).state start
  | commit => exact bracketed.commit_ends.state start
  | rollback => exact bracketed.rollback_ends.state start
  | ping => exact bracketed.ping_ends.state start
  | close => exact bracketed.close_ends (fun h _ => h.terminated) Over.shut c start
  | setAutocommit on =>
      have switched : Ensures (Before (σ := σ) c.statementTimeout c.record) (setAutocommit on)
          (fun _ => Over c.statementTimeout c.statementTimeout c.record)
          (fun _ => Over c.statementTimeout c.statementTimeout c.record) :=
        setAutocommit_ensures (fun _ => Before.over) fun _ h => h.over.within ⟨rfl, rfl, id⟩ rfl
      exact switched.state start
  | setStatementTimeout limit => exact absurd rfl (hset limit)

/-! ## Handshake -/

theorem Over.closed (h : Over limit timeout base c) (ht : c.transaction = .idle) :
    Over limit timeout base c.close := by
  unfold close
  split
  · exact h
  · rw [if_neg fun hr => hr.2 ht]
    dsimp only
    split
    · exact h.terminated.shut
    · exact h.shut

theorem greets_during : Greets (σ := Clocked σ) (Going limit timeout base)
    (During limit timeout base) where
  receive := receive_during
  keyed _ h := ⟨h.1.within ⟨rfl, rfl, id⟩ rfl, h.2⟩
  weaken h := h.1
  password _ := send_during _

/-- The handshake keeps to its own time limit, also when it fails. -/
theorem connect_over (options : ConnectOptions) (channel : σ) :
    Over (some options.connectTimeout) options.statementTimeout []
      (connect options (Clocked.untouched channel)).2 := by
  let limit := some options.connectTimeout
  let timeout := options.statementTimeout
  let start := (fresh options (Clocked.untouched channel)).started limit
  -- Without a transaction the end of a failed attempt needs no rollback, which would be under the
  -- other limit.
  have begun : Going limit timeout [] start :=
    ⟨during_started rfl rfl, isUsable_of_status (started_status limit _)⟩
  have greeted : Ensures (fun c : Connection (Clocked σ) => Going limit timeout [] c ∧ IsIdle c)
      (greet options) (fun _ c => Going limit timeout [] c ∧ IsIdle c)
      (fun _ c => During limit timeout [] c ∧ IsIdle c) :=
    (greets_during.greet (send_during _)).and (greets_idle.greet (isIdle_send _))
  have ends := connect_ensures (Q := Over limit timeout []) (E := fun _ => Over limit timeout [])
    ⟨begun, rfl⟩ (greeted.mono (fun _ h => h) (fun _ _ h => h.1.1.over)
      fun _ _ h => h.1.over.closed h.2)
  exact ends.state

/-! ## A connection of no more use -/

/-- A connection that is of no more use has done at most things that read nothing. -/
structure Silent (c d : Connection (Clocked σ)) : Prop where
  unusable : d.isUsable = false
  silent : ∃ calls, d.record = c.record ++ calls ∧ .receive ∉ calls

theorem Silent.use {d e : Connection (Clocked σ)} (h : Silent c d) (hu : Use d e) :
    Silent c e := by
  obtain ⟨hd, calls, hr, hn⟩ := h
  have unused {p : Prop} (hu : d.isUsable = true) : p := by
    rw [hd] at hu
    cases hu
  have more {call : TimedCall} (he : e.record = d.record ++ [call]) (hc : call ≠ .receive) :
      ∃ calls, e.record = c.record ++ calls ∧ .receive ∉ calls := by
    refine ⟨calls ++ [call], by rw [he, hr, List.append_assoc], ?_⟩
    rw [List.mem_append, List.mem_singleton]
    rintro (h | h)
    · exact hn h
    · exact hc h.symm
  cases hu with
  | sent _ hu => exact unused hu
  | bounded _ hu => exact unused hu
  | received hu => exact unused hu
  | missed hu => exact unused hu
  | became _ hu => exact unused hu
  | clock => exact ⟨hd, more rfl nofun⟩
  | within hc hs =>
      have he : e.record = d.record := congrArg Clocked.record hc
      exact ⟨(isUsable_of_status hs).trans hd, calls, he.trans hr, hn⟩
  | shut _ => exact ⟨rfl, more rfl nofun⟩

theorem Uses.silent {d : Connection (Clocked σ)} (h : Uses c d) (hu : c.isUsable = false) :
    Silent c d := by
  induction h with
  | refl => exact ⟨hu, [], (List.append_nil _).symm, List.not_mem_nil⟩
  | tail _ hu ih => exact ih.use hu

/-! ## One call after the other -/

def parts (c : Connection (Clocked σ)) : List Call → List (List TimedCall)
  | [] => []
  | call :: calls => (c.called call).record.drop c.record.length :: (c.called call).parts calls

theorem called_silent (hu : c.isUsable = false) (call : Call) : Silent c (c.called call) :=
  Uses.silent ((invariant_uses c).called (fun _ _ => trivial) (fun _ _ => trivial) .refl) hu

theorem parts_silent (hu : c.isUsable = false) (calls : List Call) :
    ∀ part ∈ c.parts calls, .receive ∉ part := by
  induction calls generalizing c with
  | nil => exact List.forall_mem_nil _
  | cons call calls ih =>
      obtain ⟨hd, part, hr, hn⟩ := called_silent hu call
      refine List.forall_mem_cons.2 ⟨?_, ih hd⟩
      rw [hr, List.drop_left]
      exact hn

/-- Calls that leave the time limit for statements alone keep to it, each for itself, and leave no
deadline behind. -/
theorem calledAll_paced (hd : c.deadline = none) (calls : List Call)
    (hset : ∀ limit, .setStatementTimeout limit ∉ calls) :
    ((c.calledAll calls).deadline = none ∧
        (c.calledAll calls).record = c.record ++ (c.parts calls).flatten) ∧
      (∀ part ∈ c.parts calls, Paced c.statementTimeout part) ∧
      (c.parts calls).Pairwise fun earlier later =>
        Lapsed c.statementTimeout earlier → .receive ∉ later := by
  -- The calls behind the first one begin where it ended: a connection that found its time to be up
  -- is of no more use to them.
  induction calls generalizing c with
  | nil => exact ⟨⟨hd, (List.append_nil _).symm⟩, List.forall_mem_nil _, .nil⟩
  | cons call calls ih =>
      obtain ⟨hset, hsets⟩ := forall_and.1 fun limit => not_or.1 (mt List.mem_cons.2 (hset limit))
      obtain ⟨part, hm, hd'⟩ := called_over hd fun limit he => hset limit he.symm
      obtain ⟨⟨hnone, hrecord⟩, hpaced, hstopped⟩ := ih hd' hsets
      rw [hm.timeout] at hpaced hstopped
      have here : (c.called call).record.drop c.record.length = part := by
        rw [hm.record, List.drop_left]
      refine ⟨⟨hnone, ?_⟩, ?_, ?_⟩
      · change ((c.called call).calledAll calls).record = _
        rw [hrecord, hm.record, parts, here, List.flatten_cons, List.append_assoc]
      · rw [parts, here]
        exact List.forall_mem_cons.2 ⟨hm.paced, hpaced⟩
      · rw [parts, here]
        refine List.pairwise_cons.2 ⟨fun later hl lapsed => ?_, hstopped⟩
        have unusable : (c.called call).isUsable = false :=
          Bool.not_eq_true _ ▸ fun hu => hm.inTime hu lapsed
        exact parts_silent unusable calls later hl

/-- From one state of a connection these calls of it led to the other. Each of them kept to the
time limit for statements, and they left no deadline behind. -/
structure KeptTo (c : Connection (Clocked σ)) (calls : List Call) (d : Connection (Clocked σ)) :
    Prop where
  reached : d = c.calledAll calls
  record : d.record = c.record ++ (c.parts calls).flatten
  deadline : d.deadline = none
  inTurn : Clocked.InTurn c.statementTimeout (c.parts calls)

theorem calledAll_keptTo (calls : List Call) (hd : c.deadline = none)
    (hset : ∀ limit, .setStatementTimeout limit ∉ calls)
    (hf : Forward (c.calledAll calls).record) : KeptTo c calls (c.calledAll calls) := by
  obtain ⟨⟨hnone, hrecord⟩, hpaced, hstopped⟩ := calledAll_paced hd calls hset
  refine ⟨rfl, hrecord, hnone, fun part hp => (hpaced part hp).timely (hf.sublist ?_), hstopped⟩
  rw [hrecord]
  exact (List.sublist_flatten_of_mem hp).trans (List.sublist_append_right _ _)

/-- To change the time limit does nothing with the channel. -/
theorem setStatementTimeout_keptTo (hd : c.deadline = none) (limit : Option Duration) :
    KeptTo c [.setStatementTimeout limit] (c.called (.setStatementTimeout limit)) := by
  have nothing : c.parts [.setStatementTimeout limit] = [[]] := by
    change [c.record.drop c.record.length] = _
    rw [List.drop_length]
  refine ⟨rfl, ?_, hd, ?_⟩
  · rw [nothing]
    exact (List.append_nil _).symm
  · rw [nothing]
    refine ⟨?_, List.pairwise_singleton _ _⟩
    rintro part hp before after he
    rw [List.mem_singleton.1 hp] at he
    simp at he

theorem called_keptTo (hd : c.deadline = none) (call : Call)
    (hf : Forward (c.called call).record) : KeptTo c [call] (c.called call) := by
  by_cases hset : ∃ limit, call = .setStatementTimeout limit
  · obtain ⟨limit, rfl⟩ := hset
    exact setStatementTimeout_keptTo hd limit
  · refine calledAll_keptTo [call] hd (fun limit hl => hset ⟨limit, ?_⟩) hf
    exact (List.mem_singleton.1 hl).symm

end Connection

theorem Desk.perform_keptTo {σ : Type} [Channel σ] {d : Desk (Clocked σ)}
    (hd : d.connection.deadline = none) (operation : Operation)
    (hf : Clocked.Forward (d.perform operation).2.connection.record) :
    ∃ calls, (∀ call ∈ calls, d.Calls call operation) ∧
      d.connection.KeptTo calls (d.perform operation).2.connection := by
  by_cases hset : ∃ limit, operation = .setStatementTimeout limit
  · obtain ⟨limit, rfl⟩ := hset
    exact ⟨[.setStatementTimeout limit], by simp [Calls],
      Connection.setStatementTimeout_keptTo hd limit⟩
  · obtain ⟨calls, hcalls, he⟩ := d.perform_calls operation
    rw [he] at hf ⊢
    refine ⟨calls, hcalls,
      Connection.calledAll_keptTo calls hd (fun limit hl => hset ⟨limit, ?_⟩) hf⟩
    exact (hcalls _ hl).limit

theorem Desk.leave_keptTo {σ : Type} [Channel σ] {d : Desk (Clocked σ)}
    (hd : d.connection.deadline = none) (hf : Clocked.Forward d.leave.record) :
    ∃ calls, (∀ call ∈ calls, call = .rollback ∨ call = .close) ∧
      d.connection.KeptTo calls d.leave := by
  obtain ⟨calls, hcalls, he⟩ := d.leave_calls
  rw [he] at hf ⊢
  refine ⟨calls, hcalls, Connection.calledAll_keptTo calls hd (fun limit hl => ?_) hf⟩
  rcases hcalls _ hl with h | h
  · cases h
  · cases h

namespace Connection

open Clocked

/-- Whatever the channel does, and whatever is done on a connection from the handshake on, there is
no deadline between two operations. As long as the clock does not go back, the handshake keeps to
the time limit for connecting, and each later call to the time limit for statements that holds when
it is made: its time is counted from a first look at the clock, every read has its bound set just
before, to no more than the limit, and once the clock shows that the time is up nothing more is
read, neither by that call nor by the others that its operation is made of. Without a time limit
reads are unbounded. -/
theorem deadlines_bound_their_operations {σ : Type} [Channel σ] (options : ConnectOptions)
    (channel : σ) (operations : List Operation) :
    let made := (connect options (Clocked.untouched channel)).2
    let d := (Desk.performAll { connection := made } operations).2
    let c := d.connection
    (made.deadline = none ∧ c.deadline = none) ∧
      (Forward made.record → Timely (some options.connectTimeout) made.record) ∧
      (∀ call, Forward (c.called call).record → KeptTo c [call] (c.called call)) ∧
      (∀ operation, Forward (d.perform operation).2.connection.record →
        ∃ calls, (∀ call ∈ calls, d.Calls call operation) ∧
          KeptTo c calls (d.perform operation).2.connection) ∧
      (Forward d.leave.record →
        ∃ calls, (∀ call ∈ calls, call = .rollback ∨ call = .close) ∧ KeptTo c calls d.leave) := by
  intro made d c
  obtain ⟨calls, hm, hmade⟩ := connect_over options channel
  have lifted (call : Call) (e : Connection (Clocked σ)) (he : e.deadline = none) :
      (e.called call).deadline = none := by
    by_cases hset : ∃ limit, call = .setStatementTimeout limit
    · obtain ⟨limit, rfl⟩ := hset
      exact he
    · obtain ⟨calls, -, hnone⟩ := called_over he fun limit hl => hset ⟨limit, hl⟩
      exact hnone
  have hd : c.deadline = none :=
    Desk.performAll_called (P := (·.deadline = none)) lifted operations { connection := made } hmade
  refine ⟨⟨hmade, hd⟩, fun hf => ?_, called_keptTo hd, Desk.perform_keptTo hd,
    Desk.leave_keptTo hd⟩
  have record : made.record = calls := hm.record
  rw [record] at hf ⊢
  exact hm.paced.timely hf

def stalling : Script where
  deliveries := (Script.saying [.readyForQuery .idle]).deliveries ++ [.chunk []]
  steps := [0, 0, 0, 4, 8]

theorem deadlines_bound_their_operations_stalling :
    let options : ConnectOptions := { statementTimeout := some ⟨10⟩ }
    let c := (connect options (Clocked.untouched stalling)).2
    (Forward c.record ∧ Forward (c.called .ping).record ∧ (c.called .ping).status = .broken) ∧
      Timely (some options.connectTimeout) c.record ∧ KeptTo c [.ping] (c.called .ping) ∧
      c.parts [.ping] = [[.now 0, .send [81, 0, 0, 0, 5, 0], .now 4, .bound (some ⟨6⟩), .receive,
        .now 12]] := by
  intro options c
  have forward : Forward (c.called .ping).record := by decide +kernel
  have greeted : Forward c.record := by decide +kernel
  have bounded := deadlines_bound_their_operations options stalling []
  obtain ⟨-, connecting, calling, -⟩ := bounded
  exact ⟨⟨greeted, forward, by decide +kernel⟩, connecting greeted, calling .ping forward,
    by decide +kernel⟩

end Connection

end SqlWire
