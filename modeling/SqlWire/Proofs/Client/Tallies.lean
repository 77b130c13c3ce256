import SqlWire.Proofs.Client.Progress
import SqlWire.Proofs.Client.Readers

/-!
# How often a connection reads

A channel with a fixed course delivers each of its deliveries once. To read behind the last of them
is to find the channel at its end, and then the connection is given up and reads no more. So
whatever is done with a connection, it reads at most once more than there are deliveries.
-/

namespace SqlWire

namespace Script

def reads (s : Script) : Nat :=
  s.events.countP fun
    | .received _ => true
    | _ => false

def tally (s : Script) : Nat :=
  s.reads + s.deliveries.length

variable (s : Script)

theorem send_tally (bytes : Bytes) : (Channel.send bytes s).2.tally = s.tally := by
  change (s.send bytes).2.tally = _
  unfold send
  dsimp only
  split
  · rfl
  · rfl

theorem bound_tally (limit : Option Duration) : (Channel.bound limit s).2.tally = s.tally := by
  change (s.bound limit).2.tally = _
  unfold bound
  dsimp only
  split
  · rfl
  · rfl

theorem now_tally : (Channel.now s).2.tally = s.tally := by
  change s.now.2.tally = _
  unfold now
  split
  · rfl
  · rfl

/-- A read uses up a delivery, or there is none and the channel is found at its end. -/
theorem receive_tally : (Channel.receive s).2.tally = s.tally ∨
    (Channel.receive s).1 = .closed ∧ (Channel.receive s).2.tally = s.tally + 1 := by
  have reads : (s.note (.received s.limit)).reads = s.reads + 1 :=
    List.countP_cons_of_pos rfl
  have deliveries : (s.note (.received s.limit)).deliveries = s.deliveries := rfl
  change s.receive.2.tally = _ ∨ s.receive.1 = _ ∧ s.receive.2.tally = _
  unfold receive
  dsimp only
  split
  · next hd =>
      refine .inr ⟨rfl, ?_⟩
      rw [tally, tally, reads, deliveries]
      omega
  · next d rest hd =>
      refine .inl ?_
      have left : s.deliveries.length = rest.length + 1 := by
        rw [← deliveries, hd, List.length_cons]
      change (s.note (.received s.limit)).reads + rest.length = s.reads + s.deliveries.length
      rw [reads, left]
      omega

end Script

namespace Connection

/-- A connection that can be used has `total` reads to its name at most, and any other at most one
more. -/
def Tallied (total : Nat) (c : Connection Script) : Prop :=
  c.channel.tally ≤ total + if c.isUsable then 0 else 1

def TalliedUsable (total : Nat) (c : Connection Script) : Prop :=
  Tallied total c ∧ c.isUsable = true

def TalliedReady (total : Nat) (c : Connection Script) : Prop :=
  Tallied total c ∧ c.status = .ready

variable {total : Nat} {c c' : Connection Script}

theorem Tallied.within (h : Tallied total c) (hc : c'.channel.tally = c.channel.tally)
    (hu : c'.isUsable = true → c.isUsable = true) : Tallied total c' := by
  unfold Tallied at h ⊢
  rw [hc]
  cases hu' : c'.isUsable with
  | true => simpa [hu hu'] using h
  | false =>
      refine Nat.le_trans h (Nat.add_le_add_left ?_ total)
      split <;> simp

theorem Tallied.le (h : Tallied total c) : c.channel.tally ≤ total + 1 :=
  Nat.le_trans h (Nat.add_le_add_left (by split <;> simp) total)

/-- A connection that was given up may have found the channel at its end. -/
theorem Tallied.of_unusable (hu : c.isUsable = false) (h : c.channel.tally ≤ total + 1) :
    Tallied total c := by
  unfold Tallied
  rwa [hu]

theorem Tallied.dropped (h : Tallied total c) : Tallied total c.markBroken :=
  .of_unusable (markBroken_unusable c) (by rw [markBroken_channel]; exact h.le)

theorem Tallied.aside (h : Tallied total c) (ha : Aside c c') : Tallied total c' := by
  refine h.within ?_ fun hu => (isUsable_of_status ha.status).symm.trans hu
  rcases ha.channel with hc | hc
  · rw [hc]
  · rw [hc, Script.now_tally]

theorem TalliedUsable.le (h : TalliedUsable total c) : c.channel.tally ≤ total := by
  have ht := h.1
  unfold Tallied at ht
  rwa [h.2] at ht

theorem TalliedUsable.within (h : TalliedUsable total c) (hc : c'.channel.tally = c.channel.tally)
    (hs : c'.status = c.status) : TalliedUsable total c' :=
  ⟨h.1.within hc fun _ => h.2, (isUsable_of_status hs).trans h.2⟩

theorem TalliedReady.usable (h : TalliedReady total c) : TalliedUsable total c :=
  ⟨h.1, isUsable_of_ready h.2⟩

/-- Only the end of the channel is read without being delivered, and it ends the connection. -/
theorem takeDelivery_tally (limit : Option Duration) :
    Ensures (TalliedUsable total) (takeDelivery limit) (fun _ => TalliedUsable total)
      (fun _ => Tallied total) := by
  constructor
  intro c hc
  have bounded : TalliedUsable total { c with channel := (Channel.bound limit c.channel).2 } :=
    hc.within (Script.bound_tally c.channel limit) rfl
  unfold takeDelivery
  rcases hb : Channel.bound limit c.channel with ⟨_ | f, channel⟩
  · rw [hb] at bounded
    have le : channel.tally ≤ total := bounded.le
    have received := Script.receive_tally channel
    dsimp only
    rcases hr : Channel.receive channel with ⟨bytes | _ | f, channel'⟩
    · rw [hr] at received
      have same : channel'.tally = channel.tally := received.resolve_right fun h => nomatch h.1
      exact bounded.within same rfl
    -- This may be the read that no delivery stands for.
    · rw [hr] at received
      refine Tallied.of_unusable (markBroken_unusable _) ?_
      rw [markBroken_channel]
      have : channel'.tally = channel.tally ∨ channel'.tally = channel.tally + 1 :=
        received.imp id And.right
      change channel'.tally ≤ total + 1
      omega
    · rw [hr] at received
      have same : channel'.tally = channel.tally := received.resolve_right fun h => nomatch h.1
      have failed : TalliedUsable total { c with channel := channel' } := bounded.within same rfl
      exact failed.1.dropped
  · rw [hb] at bounded
    exact bounded.1.dropped

theorem fill_tally :
    Ensures (TalliedUsable total) fill (fun _ => TalliedUsable total) (fun _ => Tallied total) := by
  constructor
  intro c hc
  cases hd : c.deadline with
  | none =>
      rw [fill_unlimited hd]
      exact (takeDelivery_tally none).run c hc
  | some limit =>
      have looked : TalliedUsable total { c with channel := (Channel.now c.channel).2 } :=
        hc.within (Script.now_tally c.channel) rfl
      rw [fill_limited hd]
      split
      · exact looked.1.dropped
      · exact (takeDelivery_tally _).run _ looked

theorem receive_tallied :
    Ensures (TalliedUsable total) receive (fun _ => TalliedUsable total) (fun _ => Tallied total) :=
  receive_ensures fill_tally (fun _ _ h => h.within rfl rfl) fun h => h.1.dropped

theorem send_tallied (messages : List FrontendMessage) :
    Ensures (TalliedUsable total) (send messages) (fun _ => TalliedUsable total)
      (fun _ => Tallied total) :=
  send_ensures messages (fun h => h.1)
    (fun bytes h => h.within (Script.send_tally _ bytes) rfl) fun h => h.1.dropped

theorem send_ready_tallied (messages : List FrontendMessage) :
    Ensures (TalliedReady total) (send messages) (fun _ => TalliedUsable total)
      (fun _ => Tallied total) :=
  (send_tallied messages).mono (fun _ h => h.usable) (fun _ _ h => h) fun _ _ h => h

theorem readings_tallied : Readings (TalliedUsable total) (fun _ => TalliedUsable total)
    (Tallied total) (TalliedReady total) (Tallied total) where
  receive := receive_tallied.mono (fun _ h => h) (fun _ _ h => by simpa using h) fun _ _ h => h
  applied _ h := ⟨h.1.within rfl fun _ => h.2, rfl⟩
  failed {c} h := ⟨h.1.aside (aside_failTransaction c),
    (aside_failTransaction c).status.trans h.2⟩
  weaken h := h.1
  lost h := h
  dropped h := h.1.dropped
  cut h := (h.elim (fun h => h.1) id).dropped.within rfl id

theorem parts_tallied : Parts (fun _ => True) (Tallied total) (TalliedReady total) where
  weaken h := h.1
  ready h hs := ⟨h, hs⟩
  aside := .aside
  aside_ready h ha := ⟨h.1.aside ha, ha.status.trans h.2⟩
  settle := readings_tallied.drained (fun _ h hs => ⟨h.1, ready_of_usable h.2 hs⟩) fun _ h _ => h
  command sql _ := (send_ready_tallied _).bind fun _ => readings_tallied.command
  pull _ columns _ := (readings_tallied.pull (fun h => h.1) columns).mono
    (fun _ h => ⟨h.1, by simp [isUsable, h.2]⟩) (fun _ _ h => h) fun _ _ h => h
  any sql := (send_ready_tallied _).bind fun _ => readings_tallied.command
  statement sql params := (send_ready_tallied _).bind fun _ => readings_tallied.statement fun _ h =>
    h.1.within rfl fun _ => h.2
  switch _ h := h.within rfl id
  terminate h hu := (send_ensures (I := Tallied total) (W := Tallied total) _ (fun h => h)
    (fun bytes h => h.within (Script.send_tally _ bytes) id) Tallied.dropped).state h
  shut h := .of_unusable rfl h.le

theorem greets_tallied : Greets (TalliedUsable total) (Tallied total) where
  receive := receive_tallied
  keyed _ h := h.within rfl rfl
  weaken h := h.1
  password _ := send_tallied _

/-- An attempt to connect reads no more often than there is something to read, and once more. -/
theorem connect_tallied (options : ConnectOptions) (script : Script) :
    Tallied script.tally (connect options script).2 := by
  have start : TalliedUsable script.tally
      ((fresh options script).started (some options.connectTimeout)) :=
    ⟨Nat.le_of_eq (Script.now_tally script), rfl⟩
  have untimed {c : Connection Script} (h : Tallied script.tally c) :
      Tallied script.tally { c with deadline := none } := h.within rfl id
  have ends := connect_ensures (Q := Tallied script.tally) (E := fun _ => Tallied script.tally)
    start ((greets_tallied.greet (send_tallied _)).mono (fun _ h => h)
      (fun _ _ h => untimed h.1) fun _ c h => parts_tallied.invariant.close _ (untimed h))
  exact ends.state

/-- Whatever the channel delivers, each of the loops in which a connection reads comes to its end
after at most one round more than there are bytes and deliveries at hand: the loop for the next
message, the one for an answer, with any reader, the one for the handshake and the one for all rows
of a result. All else that an operation does is done once for each of the calls that it is made of.
And from the handshake to the end of the connection the channel is read from at most once more than
it has deliveries, whatever is done in between. -/
theorem reading_ends (options : ConnectOptions) (script : Script) (operations : List Operation) :
    let made := connect options script
    let d := (Desk.performAll { connection := made.2 } operations).2
    d.leave.channel.reads ≤ script.reads + script.deliveries.length + 1 ∧
      ∀ c : Connection Script,
        (∃ n ≤ c.backlog + 1, Loops receiveRound c n (receive c)) ∧
        (∀ (α β : Type) (react : α → BackendMessage → Turn Script α β)
          (onFailure : ClientError → Action Script β) (state : α), ∃ n ≤ c.backlog + 1,
            Loops (converseRound react onFailure) (state, c) n
              (converse react onFailure state c)) ∧
        (∀ password, ∃ n ≤ c.backlog + 1,
          Loops (authenticateRound password) c n (authenticate password (c.backlog + 1) c)) ∧
        ∀ k : Cursor, ∃ n ≤ c.backlog + 1,
          Loops Cursor.fetchRound ([], k, c) n (Cursor.fetchAll (k, c)) := by
  intro made d
  have before : Tallied script.tally d.connection :=
    Desk.performAll_keeps parts_tallied.invariant (fun _ => trivial) operations
      { connection := made.2 } (fun _ _ => trivial) (connect_tallied options script)
  have after : Tallied script.tally d.leave := Desk.leave_keeps parts_tallied.invariant d before
  refine ⟨Nat.le_trans (Nat.le_add_right _ _) after.le, fun c => ?_⟩
  exact ⟨receive_loops c, fun α β react onFailure state => converse_loops react onFailure state c,
    fun password => authenticate_loops Script.send_pending password c,
    fun k => Cursor.fetchAll_loops k c⟩

/-- A channel with nothing to deliver is read from once. -/
example : (connect {} ({ deliveries := [] } : Script)).2.channel.reads = 1 := by decide +kernel

end Connection

end SqlWire
