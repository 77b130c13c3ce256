import SqlWire.Client.Script
import SqlWire.Client.Startup
import SqlWire.Proofs.Client.Exchanges

/-!
# Requests and answers in lockstep

Whatever a connection is asked to do, and whatever its server sends, it sends a request only after
it has read the answers to all the requests before it.
-/

namespace SqlWire

namespace Connection

section

variable {σ : Type} [Channel σ] {c d : Connection σ} {status : ConnectionStatus}

/-- The readers of an answer end with no request unanswered, or with a result of which the end is
still to be read. -/
theorem readings_turn (c : Connection σ) (status : ConnectionStatus) :
    Readings (Waiting c status) (fun _ d => d.status = status ∧ Behind c 0 d) (Spent c) (Even c)
      (InTurn c) where
  receive := receive_turns
  applied _ h := ⟨rfl, h.2.within rfl rfl⟩
  failed {d} h := h.aside (aside_failTransaction d)
  weaken := .ready
  lost := .lost
  dropped h := .lost h.2.dropped
  cut h := by
    have behind : ∃ n, Behind c n _ := h.elim (fun h => ⟨1, h.2⟩) fun h => h.2
    obtain ⟨n, hb⟩ := behind
    exact .lost (hb.dropped.within rfl rfl rfl)

theorem settle_turns :
    Ensures (fun d => InTurn c d ∧ d.isUsable = true) settle (fun _ => Even c)
      (fun _ => InTurn c) := by
  refine Ensures.of_each fun d hd => (readings_turn c d.status).drained ?_ ?_
  · intro _ h hs
    subst h
    exact hd.1.even (ready_of_usable hd.2 hs)
  · intro d' h hs
    subst h
    cases ht : d'.status with
    | streaming id columns => exact hd.1.waiting ht
    | _ => simp [isStreaming, ht] at hs

theorem command_turns (sql : String) :
    Ensures (Even c) (command sql) (fun _ => Even c) (fun _ => InTurn c) :=
  (send_waits (by simp)).bind fun _ => (readings_turn c .ready).command

theorem statementMessages_ne (sql : String) (params : List Value) :
    statementMessages sql params ≠ [.terminate] := by
  unfold statementMessages
  split <;> simp

theorem submit_turns (sql : String) (params : List Value) :
    Ensures (Even c) (submit sql params) (fun _ => InTurn c) (fun _ => InTurn c) :=
  (send_waits (statementMessages_ne sql params)).bind fun _ =>
    (readings_turn c .ready).statement fun _ h => .streaming ⟨rfl, h.2.within rfl rfl⟩

theorem pull_turns (id : Nat) (columns : List Column) :
    Ensures (fun d => InTurn c d ∧ d.status = .streaming id columns)
      (converse (pullTurn columns) failStream {}) (fun _ => InTurn c) (fun _ => InTurn c) :=
  ((readings_turn c (.streaming id columns)).pull .streaming columns).mono
    (fun _ h => h.1.waiting h.2) (fun _ _ h => h) fun _ _ h => h

/-- Taking leave is not answered. -/
theorem terminate_turns (h : InTurn c d) : InTurn c (send [.terminate] d).2 := by
  have status := (send_status [.terminate] d).run d rfl
  rcases he : send [.terminate] d with ⟨e | u, d'⟩
  · rw [he] at status
    rcases status with rfl | hu
    · exact h
    · obtain ⟨n, history, path, hi, hn⟩ := h.behind
      exact .lost ⟨hu, n, history, path.unsent he, hi, hn⟩
  · rw [he] at status
    have hs : d'.status = d.status := status
    have behind {n : Nat} (hb : Behind c n d) : Behind c n d' := by
      obtain ⟨history, path, hi, hn⟩ := hb
      refine ⟨_, path.asked he, hi.snoc fun h => absurd rfl h, ?_⟩
      simpa using hn
    cases h with
    | ready h => exact .ready ⟨hs.trans h.1, behind h.2⟩
    | streaming h => exact .streaming ⟨hs.trans h.1, behind h.2⟩
    | lost h =>
        obtain ⟨hu, n, h⟩ := h
        exact .lost ⟨(isUsable_of_status hs).trans hu, n, behind h⟩

theorem shut_turns (h : InTurn c d) : InTurn c d.shut := by
  obtain ⟨n, history, path, hi, hn⟩ := h.behind
  exact .lost ⟨rfl, n, history, path.shut, hi, hn⟩

/-- Every operation takes its turn. -/
theorem parts_inTurn (pulled : Nat → Prop) (c : Connection σ) :
    Parts pulled (InTurn c) (Even c) where
  weaken := .ready
  ready := InTurn.even
  aside := InTurn.aside
  aside_ready := Even.aside
  settle := settle_turns
  command sql _ := command_turns sql
  any := command_turns
  statement := submit_turns
  switch _ h := h.within rfl rfl rfl
  pull id columns _ := pull_turns id columns
  terminate h _ := terminate_turns h
  shut := shut_turns

theorem inTurn_refl (hs : c.status = .ready) : InTurn c c :=
  .ready ⟨hs, [], .refl, .nil, rfl⟩

/-! ## Handshake -/

theorem send_same_status (messages : List FrontendMessage) :
    Ensures (·.status = status) (send messages : Action σ Unit) (fun _ d => d.status = status)
      (fun _ _ => True) :=
  Ensures.of_each fun d hd => (send_status messages d).mono (fun _ h => h)
    (fun _ _ h => h.trans hd) fun _ _ _ => trivial

/-- While the handshake goes on, the status stays as it was. -/
theorem greets_status (status : ConnectionStatus) :
    Greets (fun d : Connection σ => d.status = status) (fun _ => True) where
  receive := Ensures.of_each fun d hd => (receive_reads d).mono (fun _ h => h)
    (fun _ _ ⟨_, _, hr⟩ => hr.frame.status.trans hd) fun _ _ _ => trivial
  keyed _ h := h
  weaken _ := trivial
  password _ := send_same_status _

theorem connect_ready {options : ConnectOptions} {channel : σ}
    (h : (connect options channel).1 = .ok ()) : (connect options channel).2.status = .ready :=
  (greets_status .ready).connected (I := (·.status = .ready)) rfl (send_same_status _)
    (fun _ h => h) h

/-- The connection came here in lockstep with its server. A ready connection has no request
unanswered, and one with a result exactly one. If the server gives one answer to each request,
every message belongs to the answer that it is taken for. -/
structure Lockstep (c : Connection σ) (history : List Exchange) (d : Connection σ) : Prop where
  path : Exchanges c history d
  inStep : InStep history
  ready : d.status = .ready → requests history = answered history
  streaming : d.isStreaming = true → requests history = answered history + 1
  attributed : ∀ answers, (∀ a ∈ answers, IsAnswer a) → heardIn history <+: answers.flatten →
    Attributed answers history

theorem InTurn.lockstep (h : InTurn c d) : ∃ history, Lockstep c history d := by
  have behind {n : Nat} (hb : Behind c n d) (hr : d.status = .ready → n = 0)
      (hs : d.isStreaming = true → n = 1) : ∃ history, Lockstep c history d := by
    obtain ⟨history, path, hi, hn⟩ := hb
    refine ⟨history, path, hi, fun h => ?_, fun h => ?_, fun _ => hi.attributed⟩
    · rw [hn, hr h, Nat.add_zero]
    · rw [hn, hs h]
  cases h with
  | ready h => exact behind h.2 (fun _ => rfl) fun hs => by simp [isStreaming, h.1] at hs
  | streaming h => exact behind h.2 (fun hr => by rw [h.1] at hr; cases hr) fun _ => rfl
  | lost h =>
      obtain ⟨hu, n, hb⟩ := h
      refine behind hb (fun hr => ?_) fun hs => ?_
      · simp [isUsable, hr] at hu
      · unfold isStreaming at hs
        unfold isUsable at hu
        cases ht : d.status <;> simp [ht] at hs hu

/-- On an established connection, whatever the server sends and whatever is asked of it, requests
and answers stay in lockstep, up to the end of the connection. -/
theorem requests_in_lockstep (options : ConnectOptions) (channel : σ)
    (operations : List Operation) :
    let c := (connect options channel).2
    let desk := (Desk.performAll { connection := c } operations).2
    (connect options channel).1 = .ok () →
      (∃ history, Lockstep c history desk.connection) ∧
        ∃ history, Lockstep c history desk.leave := by
  intro c desk hc
  have invariant : Invariant (fun _ => True) (fun _ => True) (InTurn c) :=
    (parts_inTurn (fun _ => True) c).invariant
  have turn : InTurn c desk.connection :=
    Desk.performAll_keeps invariant (fun _ => trivial) operations _ (fun _ _ => trivial)
      (inTurn_refl (connect_ready hc))
  exact ⟨turn.lockstep, (Desk.leave_keeps invariant desk turn).lockstep⟩

end

def answeringTwice : Script where
  deliveries := [.chunk ([BackendMessage.readyForQuery .idle, .commandComplete "BEGIN",
    .readyForQuery .inTransaction, .commandComplete "COMMIT", .readyForQuery .idle].flatMap
      fun m => m.encode.toOption.getD [])]

theorem answeringTwice_lets_in : (connect {} answeringTwice).1 = .ok () :=
  ok_of_toBool (by decide +kernel)

theorem requests_in_lockstep_committed :
    let c := (connect {} answeringTwice).2
    let desk := (Desk.performAll { connection := c } [.beginScope "t" .serverDefault,
      .commitScope "t"]).2
    (connect {} answeringTwice).1 = .ok () ∧ desk.connection.status = .ready ∧
      (∃ history, Lockstep c history desk.connection) ∧ ∃ history, Lockstep c history desk.leave :=
  ⟨answeringTwice_lets_in, by decide +kernel, requests_in_lockstep {} answeringTwice
    [.beginScope "t" .serverDefault, .commitScope "t"] answeringTwice_lets_in⟩

end Connection

end SqlWire
