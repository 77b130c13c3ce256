import SqlWire.Proofs.Client.Invariants
import SqlWire.Proofs.Joint.Requests
import SqlWire.Proofs.Server.Endings

/-!
# What every operation of a connection keeps

A connection to a session is in order if it stands with its session, was let down by its channel,
or is closed. Whatever a caller does with a connection in order leaves it in order, whether the
operation succeeds or fails.
-/

namespace SqlWire

open Session

namespace Connection

section

variable {σ : Type} [Joined σ] {terms : Terms σ} {s : Session} {c : Connection σ}

/-- The connection stands with its session, was let down by its channel, or is closed. -/
def InOrder (terms : Terms σ) (c : Connection σ) : Prop :=
  (∃ s, Standing terms s c) ∨ (∃ e, Lost terms e c) ∨ c.status = .closed

abbrev Keeps {α : Type} (terms : Terms σ) (P : Connection σ → Prop) (action : Action σ α) : Prop :=
  Ensures P action (fun _ => InOrder terms) (fun _ => InOrder terms)

theorem Settled.inOrder (h : Settled terms s c) : InOrder terms c := .inl ⟨s, .inl h⟩

theorem Standing.inOrder (h : Standing terms s c) : InOrder terms c := .inl ⟨s, h⟩

theorem Lost.inOrder {e : ClientError} (h : Lost terms e c) : InOrder terms c := .inr (.inl ⟨e, h⟩)

theorem Falters.inOrder (h : Falters terms s c) : InOrder terms c :=
  h.elim Settled.inOrder fun ⟨_, h⟩ => h.inOrder

theorem Declined.inOrder {sql : String} {e : ClientError} (h : Declined terms s sql e c) :
    InOrder terms c := by
  cases h with
  | unsent he h => exact h.inOrder
  | reported h => exact h.inOrder
  | lost h => exact h.inOrder

theorem Standing.usable (h : Standing terms s c) : c.isUsable = true := by
  rcases h with h | ⟨_, _, h, -⟩
  · exact h.hears.usable
  · simp [isUsable, h]

theorem InOrder.standing (h : InOrder terms c) (hu : c.isUsable = true) :
    ∃ s, Standing terms s c := by
  rcases h with h | ⟨e, h⟩ | h
  · exact h
  · simp [isUsable, h.status] at hu
  · simp [isUsable, h] at hu

theorem InOrder.settled (h : InOrder terms c) (hr : c.status = .ready) :
    ∃ s, Settled terms s c := by
  rcases h with ⟨s, h | ⟨id, columns, hs, -⟩⟩ | ⟨e, h⟩ | h
  · exact ⟨s, h⟩
  · rw [hs] at hr
    cases hr
  · rw [h.status] at hr
    cases hr
  · rw [h] at hr
    cases hr

theorem Standing.limited (h : Standing terms s c) : Limited terms c := by
  rcases h with h | ⟨_, _, -, _, _, h, -⟩
  · exact h.hears.limited
  · exact h.limited

/-! ## Time limits -/

theorem dated_none : Dated terms none := by
  intro d h
  cases h

theorem Settled.over (h : Settled terms s c) {channel : σ} {deadline : Option Deadline}
    (hloop : Joined.loop channel = Joined.loop c.channel) (hd : Dated terms deadline) :
    Settled terms s { c with channel, deadline } :=
  ⟨h.hears.over hloop hd, h.quiet, h.agree⟩

theorem Standing.over (h : Standing terms s c) {channel : σ} {deadline : Option Deadline}
    (hloop : Joined.loop channel = Joined.loop c.channel) (hd : Dated terms deadline) :
    Standing terms s { c with channel, deadline } := by
  rcases h with h | ⟨id, columns, hs, hc⟩
  · exact .inl (h.over hloop hd)
  · exact .inr ⟨id, columns, hs, hc.over hloop hd⟩

/-- What only the caller sets may be set to anything that is allowed. -/
theorem Standing.reset (h : Standing terms s c) {autocommit : Bool}
    {statementTimeout : Option Duration} (hl : ∀ d, statementTimeout = some d → terms.limit d) :
    Standing terms s { c with autocommit, statementTimeout } := by
  rcases h with h | ⟨id, columns, hs, todo, q, hc, hq⟩
  · exact .inl ⟨h.hears.reset hl, h.quiet, h.agree⟩
  · exact .inr ⟨id, columns, hs, todo, q, hc.reset hl, hq⟩

theorem InOrder.untimed (h : InOrder terms c) : InOrder terms { c with deadline := none } := by
  rcases h with ⟨s, h⟩ | ⟨e, h⟩ | h
  · exact .inl ⟨s, h.over rfl dated_none⟩
  · exact .inr (.inl ⟨e, h.status, h.lost, h.limited.statement, dated_none⟩)
  · exact .inr (.inr h)

/-- An action starts from another clock and from a deadline that its time limit allows. -/
theorem over_started {P : Connection σ → Prop} {limit : Option Duration}
    (hlimit : ∀ d, limit = some d → terms.limit d)
    (hP : ∀ channel deadline, Joined.loop channel = Joined.loop c.channel →
      Dated terms deadline → P { c with channel, deadline }) : P (c.started limit) := by
  cases limit with
  | none => exact hP c.channel none rfl dated_none
  | some d =>
      have hd : Dated terms (some ⟨(Channel.now c.channel).1 + d.nanos, d⟩) := by
        intro _ h
        cases h
        exact ⟨hlimit d rfl, c.channel, rfl⟩
      exact hP (Channel.now c.channel).2 _ (Joined.loop_now _) hd

theorem Awaits.limited {old : ConnectionStatus} {p : Phase} (h : Awaits terms s old p c) :
    Limited terms c := by
  obtain ⟨_, _, h, -⟩ := h
  exact h.limited

theorem timedStatement_ensures {α : Type} {action : Action σ α} {P : Connection σ → Prop}
    {Q : α → Connection σ → Prop} {E : ClientError → Connection σ → Prop}
    (hl : ∀ c, P c → Limited terms c)
    (hP : ∀ c channel deadline, P c → Joined.loop channel = Joined.loop c.channel →
      Dated terms deadline → P { c with channel, deadline })
    (hQ : ∀ a c, Q a c → Q a { c with deadline := none })
    (hE : ∀ e c, E e c → E e { c with deadline := none })
    (h : Ensures P action Q E) : Ensures P (timedStatement action) Q E := by
  constructor
  intro c hc
  have ht : Ensures (· = c) (timed c.statementTimeout action) Q E := by
    refine timed_ensures (fun d hd => ?_) (h.mono (fun _ h => h) hQ hE)
    subst hd
    exact over_started (hl d hc).statement fun channel deadline => hP d channel deadline hc
  exact ht.run c rfl

def Upright (terms : Terms σ) (c : Connection σ) : Prop :=
  ∃ s, Standing terms s c

theorem Upright.limited (h : Upright terms c) : Limited terms c := by
  obtain ⟨s, hs⟩ := h
  exact hs.limited

def Calm (terms : Terms σ) (c : Connection σ) : Prop :=
  ∃ s, Settled terms s c

theorem timedUpright_ensures {α : Type} {action : Action σ α} {R : Connection σ → Prop}
    (hR : ∀ c, R c → R { c with deadline := none })
    (h : Ensures (Upright terms) action (fun _ => R) (fun _ => R)) :
    Ensures (Upright terms) (timedStatement action) (fun _ => R) (fun _ => R) := by
  refine timedStatement_ensures (fun _ hc => Upright.limited hc) ?_ (fun _ => hR) (fun _ => hR) h
  intro c channel deadline hd' hloop hd
  obtain ⟨s, hs⟩ := hd'
  exact ⟨s, hs.over hloop hd⟩

/-! ## Operations -/

theorem ensureUsable_upright :
    Ensures (InOrder terms) ensureUsable (fun _ => Upright terms) (fun _ => InOrder terms) := by
  refine ensureUsable_ensures.mono (fun _ h => h) ?_ fun _ _ h => h.1
  intro _ c h
  exact h.1.standing h.2

theorem settle_calm :
    Ensures (Upright terms) settle (fun _ => Calm terms) (fun _ => InOrder terms) := by
  refine Ensures.of_each ?_
  intro c hc
  obtain ⟨s, hs⟩ := hc
  exact Ensures.of_eq hs (settle_settled.mono (fun _ h => h) (fun _ _ h => ⟨s, h⟩)
    fun _ _ h => h.inOrder)

theorem command_calm (sql : String) :
    Ensures (Calm terms) (command sql) (fun _ => Calm terms) (fun _ => InOrder terms) := by
  refine Ensures.of_each ?_
  intro c hc
  obtain ⟨s, hs⟩ := hc
  exact Ensures.of_eq hs ((command_settled sql).mono (fun _ h => h) (fun _ _ h => ⟨_, h⟩)
    fun _ _ h => h.inOrder)

/-- A statement is sent as a query or as a batch, and then its answer is awaited. -/
theorem sendStatement_awaits (sql : String) (params : List Value) :
    Ensures (Calm terms) (send (statementMessages sql params))
      (fun _ c => ∃ s p, Rowless false p ∧ Awaits terms s .ready p c) (fun _ => InOrder terms) := by
  refine Ensures.of_each ?_
  intro c hc
  obtain ⟨s, hs⟩ := hc
  have sent {p : Phase} (hp : Rowless false p)
      (hserved : ∀ bytes, FrontendMessage.encodeAll (statementMessages sql params) = .ok bytes →
        Served p s (s.serve bytes)) :
      Ensures (· = c) (send (statementMessages sql params))
        (fun _ c => ∃ s p, Rowless false p ∧ Awaits terms s .ready p c)
        (fun _ => InOrder terms) := by
    refine Ensures.of_eq hs ((send_awaits (P := Settled terms s) hs.quiet.not_over hserved).mono
      (fun c h => ⟨h.hears, h⟩) ?_ ?_)
    · intro _ c hc
      obtain ⟨bytes, -, h⟩ := hc
      exact ⟨_, p, hp, h.awaits⟩
    · intro e c hc
      rcases hc with ⟨_, -, -, h⟩ | h
      · exact h.inOrder
      · exact h.inOrder
  by_cases hp : params.isEmpty = true
  · have hm : statementMessages sql params = [.query sql] := if_pos hp
    refine sent ⟨.between, by simp⟩ fun bytes he => ?_
    rw [hm, FrontendMessage.encodeAll_singleton] at he
    exact query_served hs.quiet he
  · have hm : statementMessages sql params = _ := if_neg hp
    refine sent ⟨.opening, by simp⟩ fun bytes he => ?_
    rw [hm] at he
    exact batch_served hs.quiet he

theorem execute_keeps (sql : String) (params : List Value) :
    Keeps terms (InOrder terms) (execute sql params) := by
  have answered : Keeps terms
      (fun c => ∃ s p, Rowless false p ∧ Awaits terms s .ready p c)
      (converse statementTurn throw {} : Action σ Submitted) := by
    refine Ensures.of_each fun c hc => ?_
    obtain ⟨s, p, hp, hc⟩ := hc
    exact Ensures.of_eq hc ((statement_standing hp).mono (fun _ h => h) (fun _ _ h => h.inOrder)
      fun _ _ h => h.inOrder)
  have asked : Keeps terms (Calm terms)
      (do
        send (statementMessages sql params)
        converse statementTurn throw {} : Action σ Submitted) :=
    (sendStatement_awaits sql params).bind fun _ => answered
  unfold execute
  refine ensureUsable_upright.bind fun _ => ?_
  refine (ensureAccepted_keeps _ fun _ _ ⟨_, h⟩ => h.inOrder).bind fun _ => ?_
  refine timedUpright_ensures (fun _ h => h.untimed) ?_
  refine settle_calm.bind fun _ => ?_
  refine (ensureAccepted_keeps _ fun _ _ ⟨_, h⟩ => h.inOrder).bind fun _ => ?_
  refine Ensures.get_bind fun c hc => ?_
  split
  · exact Ensures.of_eq hc ((command_calm "BEGIN").bind fun _ => asked)
  · exact Ensures.of_eq hc asked

theorem nextRow_keeps (id : Nat) : Keeps terms (InOrder terms) (nextRow id) := by
  unfold nextRow
  refine Ensures.get_bind fun c hc => ?_
  have pull {columns : List Column} (hs : c.status = .streaming id columns) :
      Keeps terms (· = c) (timedStatement (converse (pullTurn columns) failStream {})) := by
    obtain ⟨s, hc⟩ := hc.standing (by simp [isUsable, hs])
    rcases hc with hc | ⟨id', columns', hs', hc⟩
    · have := hc.hears.status
      rw [hs] at this
      cases this
    · rw [hs] at hs'
      cases hs'
      exact Ensures.of_eq hc (timedStatement_ensures (fun _ h => Awaits.limited h)
        (fun _ _ _ h hloop hd => Awaits.over h hloop hd) (fun _ _ h => h.untimed)
        (fun _ _ h => h.untimed) (pull_standing.mono (fun _ h => h) (fun _ _ h => h.inOrder)
          fun _ _ h => h.inOrder))
  have same {x : Action σ Pull} (h : Keeps terms (InOrder terms) x) : Keeps terms (· = c) x :=
    Ensures.of_eq hc h
  cases hs : c.status with
  | streaming current columns =>
      by_cases hid : current = id
      · subst hid
        simp only [if_pos]
        exact pull hs
      · simp only [if_neg hid]
        exact same (Ensures.pure fun _ h => h)
  | ready => exact same (Ensures.pure fun _ h => h)
  | broken => exact same (Ensures.throw fun _ h => h)
  | closed => exact same (Ensures.throw fun _ h => h)

theorem calm_done {sql : String} :
    Keeps terms (Calm terms) (do let _ ← command sql : Action σ Unit) :=
  (command_calm sql).bind fun _ => Ensures.pure fun _ ⟨_, h⟩ => h.inOrder

theorem begin_keeps (sql : String) : Keeps terms (InOrder terms) (begin sql) := by
  unfold begin
  refine ensureUsable_upright.bind fun _ => timedUpright_ensures (fun _ h => h.untimed) ?_
  refine settle_calm.bind fun _ => Ensures.get_bind fun c hc => ?_
  split
  · refine Ensures.of_eq hc (Ensures.throw fun _ ⟨_, h⟩ => h.inOrder)
  · exact Ensures.of_eq hc calm_done

theorem ping_keeps : Keeps terms (InOrder terms) ping := by
  unfold ping
  exact ensureUsable_upright.bind fun _ => timedUpright_ensures
    (fun _ h => h.untimed) (settle_calm.bind fun _ => calm_done)

theorem setAutocommit_keeps (on : Bool) : Keeps terms (InOrder terms) (setAutocommit on) := by
  unfold setAutocommit
  refine ensureUsable_upright.bind fun _ => Ensures.get_bind fun c hc => ?_
  split
  · exact Ensures.of_eq hc (Ensures.throw fun _ ⟨_, h⟩ => h.inOrder)
  · refine Ensures.of_eq hc (Ensures.modify fun c hc => ?_)
    obtain ⟨s, h⟩ := hc
    exact Standing.inOrder (h.reset h.limited.statement)

/-! ## The ends of a transaction -/

theorem agree_idle (h : s.Sound) (hi : s.inTransaction = false) : Agree .idle s := by
  cases ha : s.aborted with
  | true =>
      rw [h.inside ha] at hi
      cases hi
  | false => exact ⟨by simp [hi], by simp [ha], fun _ => hi⟩

def Outside (terms : Terms σ) (c : Connection σ) : Prop :=
  (∃ s, Settled terms s c ∧ s.inTransaction = false) ∨ (∃ e, Lost terms e c) ∨ c.status = .closed

theorem Outside.untimed (h : Outside terms c) : Outside terms { c with deadline := none } := by
  rcases h with ⟨s, h, hi⟩ | ⟨e, h⟩ | h
  · exact .inl ⟨s, h.over rfl dated_none, hi⟩
  · exact .inr (.inl ⟨e, h.status, h.lost, h.limited.statement, dated_none⟩)
  · exact .inr (.inr h)

theorem Outside.inOrder (h : Outside terms c) : InOrder terms { c with transaction := .idle } := by
  rcases h with ⟨s, h, hi⟩ | ⟨e, h⟩ | h
  · exact (h.retold (agree_idle h.quiet.sound hi)).inOrder
  · exact (h.retold .idle).inOrder
  · exact .inr (.inr h)

theorem leaving_keeps {α : Type} {action : Action σ α} {P : Connection σ → Prop}
    (h : Ensures P action (fun _ => Outside terms) (fun _ => Outside terms)) :
    Keeps terms P (leaving .idle action) :=
  leaving_ensures (h.mono (fun _ h => h) (fun _ _ h => h.inOrder) fun _ _ h => h.inOrder)

/-- A command that ends the transaction is sent in any case. -/
theorem ending_settled {word : String} (hw : IsEnding word) :
    Ensures (Settled terms s) (command word) (fun _ => Settled terms (asked s word))
      (fun _ => Falters terms (asked s word)) := by
  refine (command_settled word).mono (fun _ h => h) (fun _ _ h => h) ?_
  intro e c h
  cases h with
  | unsent he =>
      obtain ⟨bytes, hb⟩ := hw.encode_query
      rw [hb] at he
      cases he
  | reported h => exact .inl h
  | lost h => exact .inr ⟨_, h⟩

theorem ending_outside {word : String} (hw : IsEnding word) :
    Ensures (Calm terms) (command word) (fun _ => Outside terms) (fun _ => Outside terms) := by
  refine Ensures.of_each ?_
  intro c hc
  obtain ⟨s, hs⟩ := hc
  have hleaves := ending_leaves hs.quiet hw
  refine Ensures.of_eq hs ((ending_settled hw).mono (fun _ h => h) ?_ ?_)
  · exact fun _ c h => .inl ⟨_, h, hleaves⟩
  · intro _ c hc
    rcases hc with h | h
    · exact .inl ⟨_, h, hleaves⟩
    · exact .inr (.inl h)

theorem commitSettled_keeps : Keeps terms (Calm terms) commitSettled := by
  unfold commitSettled
  refine Ensures.get_bind fun c hc => ?_
  cases ht : c.transaction with
  | idle =>
      refine Ensures.of_eq hc (Ensures.pure ?_)
      exact fun _ ⟨_, h⟩ => h.inOrder
  | failed =>
      exact Ensures.of_eq hc ((leaving_keeps (ending_outside (.inr rfl))).bind
        fun _ => Ensures.throw fun _ h => h)
  | active =>
      obtain ⟨s, hs⟩ := hc
      have hleaves := ending_leaves hs.quiet (.inl rfl)
      have committed : Keeps terms (Settled terms s) (failingTo .failed (command "COMMIT")) := by
        refine failingTo_ensures ((ending_settled (.inl rfl)).mono (fun _ h => h)
          (fun _ _ h => h.inOrder) ?_)
        intro _ c hc
        rcases hc with h | ⟨e, h⟩
        · exact (h.retold (agree_failed (status_outside hleaves))).inOrder
        · exact (h.retold .failed).inOrder
      exact Ensures.of_eq hs (committed.bind fun _ => Ensures.pure fun _ h => h)

theorem commit_keeps : Keeps terms (InOrder terms) commit := by
  unfold commit
  refine ensureUsable_upright.bind fun _ => Ensures.get_bind fun c hc => ?_
  split
  · exact Ensures.of_eq hc (Ensures.pure fun _ ⟨_, h⟩ => h.inOrder)
  · exact Ensures.of_eq hc (timedUpright_ensures (fun _ h => h.untimed)
      (settle_calm.bind fun _ => commitSettled_keeps))

theorem rollback_keeps : Keeps terms (InOrder terms) rollback := by
  unfold rollback
  refine leaving_keeps ?_
  have usable : Ensures (InOrder terms) ensureUsable (fun _ => Upright terms)
      (fun _ => Outside terms) := by
    refine ensureUsable_ensures.mono (fun _ h => h) (fun _ c h => h.1.standing h.2) ?_
    intro _ c hc
    obtain ⟨⟨s, h⟩ | h, hu⟩ := hc
    · rw [h.usable] at hu
      cases hu
    · exact .inr h
  have settled : Ensures (Upright terms) settle (fun _ => Calm terms) (fun _ => Outside terms) := by
    refine Ensures.of_each ?_
    intro c hc
    obtain ⟨s, hs⟩ := hc
    exact Ensures.of_eq hs (settle_settled.mono (fun _ h => h) (fun _ _ h => ⟨s, h⟩)
      fun e _ h => .inr (.inl ⟨e, h⟩))
  refine usable.bind fun _ => Ensures.get_bind fun c hc => ?_
  split
  · next hidle =>
      refine Ensures.pure ?_
      intro _ h
      subst h
      obtain ⟨s, h | ⟨id, columns, hs, -⟩⟩ := hc
      · exact .inl ⟨s, h, h.agree.idle hidle.1⟩
      · simp [isStreaming, hs] at hidle
  · refine Ensures.of_eq hc (timedUpright_ensures (fun _ h => h.untimed)
      (settled.bind fun _ => Ensures.get_bind fun c hc => ?_))
    split
    · exact Ensures.of_eq hc ((ending_outside (.inr rfl)).bind fun _ => Ensures.pure fun _ h => h)
    · next hidle =>
        refine Ensures.pure ?_
        intro _ h
        subst h
        obtain ⟨s, h⟩ := hc
        exact .inl ⟨s, h, h.agree.idle (by simpa using hidle)⟩

/-- The command with which a close begins leaves the connection in order, until it is closed. -/
theorem timedCommand_keeps (sql : String) :
    Keeps terms (Calm terms) (timedStatement (command sql)) := by
  refine timedStatement_ensures (fun _ ⟨_, h⟩ => h.hears.limited) ?_ (fun _ _ h => h.untimed)
    (fun _ _ h => h.untimed) ((command_calm sql).mono (fun _ h => h) (fun _ _ ⟨_, h⟩ => h.inOrder)
      fun _ _ h => h)
  intro c channel deadline ⟨s, hs⟩ hloop hd
  exact ⟨s, hs.over hloop hd⟩

theorem close_inOrder (h : InOrder terms c) : InOrder terms c.close := by
  unfold close
  split
  · exact h
  · exact .inr (.inr rfl)

end

end Connection

end SqlWire
