import Mathlib.Logic.Relation
import SqlWire.Client.Startup
import SqlWire.Proofs.Client.Readers

/-!
# How a connection uses its channel

`Connection.Use` lists each thing that a connection ever does to its channel, its status and its
buffer, and under which condition: it sends and reads only while it is usable, it reads only where
no whole frame is buffered, it never becomes usable again, and it closes the channel at most once.
Whatever the channel does, every operation is a sequence of such uses.
-/

namespace SqlWire.Connection

variable {σ : Type} [Channel σ] [Watched σ] {α β : Type}

inductive Use (c : Connection σ) : Connection σ → Prop
  | sent (bytes : Bytes) (hu : c.isUsable = true) :
      Use c { c with channel := (Channel.send bytes c.channel).2 }
  | bounded (limit : Option Duration) (hu : c.isUsable = true) :
      Use c { c with channel := (Channel.bound limit c.channel).2 }
  /-- More is received only where no whole frame is buffered. -/
  | received {bytes : Bytes} (hu : c.isUsable = true) (hn : Frame.next c.buffer = .ok none)
      (hr : (Channel.receive c.channel).1 = .chunk bytes) :
      Use c (extend bytes { c with channel := (Channel.receive c.channel).2 })
  /-- A read that brings no chunk. -/
  | missed (hu : c.isUsable = true) (hr : ∀ bytes, (Channel.receive c.channel).1 ≠ .chunk bytes) :
      Use c { c with channel := (Channel.receive c.channel).2 }
  | clock : Use c { c with channel := (Channel.now c.channel).2 }
  /-- The channel has no part in it, and at most something is taken off the buffer. -/
  | within {d : Connection σ} (hc : d.channel = c.channel) (hs : d.status = c.status)
      (hb : d.buffer <:+ c.buffer) : Use c d
  | became (status : ConnectionStatus) (hu : c.isUsable = true) (hs : status ≠ .closed) :
      Use c (c.become status)
  | shut (hs : c.status ≠ .closed) : Use c c.shut

abbrev Uses : Connection σ → Connection σ → Prop :=
  Relation.ReflTransGen Use

structure Stays (c d : Connection σ) : Prop where
  uses : Uses c d
  closed : d.status = .closed → c.status = .closed

def Alive (c d : Connection σ) : Prop :=
  Stays c d ∧ d.isUsable = true

def Rests (c d : Connection σ) : Prop :=
  Stays c d ∧ d.status = .ready

section

variable {c d e : Connection σ}

theorem Stays.refl (c : Connection σ) : Stays c c := ⟨.refl, id⟩

omit [Channel σ] [Watched σ] in
theorem not_closed_of_usable (h : c.isUsable = true) : c.status ≠ .closed := by
  intro hs
  simp [isUsable, hs] at h

omit [Channel σ] [Watched σ] in
theorem not_broken_of_usable (h : c.isUsable = true) : c.status ≠ .broken := by
  intro hs
  simp [isUsable, hs] at h

/-- A use that does not change the status. -/
theorem Stays.used (h : Stays c d) (hu : Use d e) (hs : e.status = d.status) : Stays c e :=
  ⟨h.uses.tail hu, fun he => h.closed (hs.symm.trans he)⟩

theorem Alive.used (h : Alive c d) (hu : Use d e) (hs : e.status = d.status) : Alive c e :=
  ⟨h.1.used hu hs, (isUsable_of_status hs).trans h.2⟩

/-- What a connection changes of itself alone. -/
theorem Stays.within (h : Stays c d) (hc : e.channel = d.channel) (hs : e.status = d.status)
    (hb : e.buffer <:+ d.buffer) : Stays c e :=
  h.used (.within hc hs hb) hs

theorem Alive.within (h : Alive c d) (hc : e.channel = d.channel) (hs : e.status = d.status)
    (hb : e.buffer <:+ d.buffer) : Alive c e :=
  h.used (.within hc hs hb) hs

/-- A usable connection may change its status to anything but closed. -/
theorem Alive.became (h : Alive c d) (status : ConnectionStatus) (hs : status ≠ .closed) :
    Stays c (d.become status) :=
  ⟨h.1.uses.tail (.became status h.2 hs), fun he => absurd he hs⟩

theorem Rests.usable (h : Rests c d) : Alive c d :=
  ⟨h.1, isUsable_of_ready h.2⟩

theorem Stays.dropped (h : Stays c d) : Stays c d.markBroken := by
  unfold markBroken
  split
  · next hu =>
      have broken : Stays c (d.become .broken) := Alive.became ⟨h, hu⟩ .broken nofun
      exact broken.within rfl rfl List.nil_suffix
  · exact h

theorem Stays.aside (h : Stays c d) (ha : Aside d e) : Stays c e := by
  have hb : e.buffer <:+ d.buffer := ha.buffer ▸ List.suffix_rfl
  rcases ha.channel with hc | hc
  · exact h.within hc ha.status hb
  · have clock : Stays c { d with channel := (Channel.now d.channel).2 } := h.used .clock rfl
    exact clock.within hc ha.status hb

theorem Use.unusable (h : Use c d) (hc : c.isUsable = false) : d.isUsable = false := by
  have unused {p : Prop} (hu : c.isUsable = true) : p := by
    rw [hc] at hu
    cases hu
  cases h with
  | sent _ hu | bounded _ hu | received hu | missed hu | became _ hu => exact unused hu
  | clock => exact hc
  | within _ hs => exact (isUsable_of_status hs).trans hc
  | shut => rfl

/-- A connection that is of no more use never becomes usable again. -/
theorem Uses.unusable (h : Uses c d) (hc : c.isUsable = false) : d.isUsable = false := by
  induction h with
  | refl => exact hc
  | tail _ hu ih => exact hu.unusable ih

/-! ## Reading -/

/-- No whole frame is buffered in a connection that can still be used. -/
def Wants (c d : Connection σ) : Prop :=
  Alive c d ∧ Frame.next d.buffer = .ok none

theorem takeDelivery_uses (limit : Option Duration) :
    Ensures (Wants c) (takeDelivery limit) (fun _ => Alive c) (fun _ => Stays c) := by
  constructor
  intro d hd
  obtain ⟨hd, hn⟩ := hd
  have bounded : Alive c { d with channel := (Channel.bound limit d.channel).2 } :=
    hd.used (.bounded limit hd.2) rfl
  unfold takeDelivery
  rcases hb : Channel.bound limit d.channel with ⟨_ | f, channel⟩
  · rw [hb] at bounded
    dsimp only
    rcases hr : Channel.receive channel with ⟨bytes | _ | f, channel'⟩
    · have read := bounded.used (.received bounded.2 hn (congrArg Prod.fst hr)) rfl
      simp only [hr] at read
      exact read
    · have read := bounded.used (.missed bounded.2 fun bytes => by simp only [hr]; nofun) rfl
      simp only [hr] at read
      exact read.1.dropped
    · have read := bounded.used (.missed bounded.2 fun bytes => by simp only [hr]; nofun) rfl
      simp only [hr] at read
      exact read.1.dropped
  · rw [hb] at bounded
    exact bounded.1.dropped

theorem fill_uses : Ensures (Wants c) fill (fun _ => Alive c) (fun _ => Stays c) := by
  constructor
  intro d hd
  cases hl : d.deadline with
  | none =>
      rw [fill_unlimited hl]
      exact (takeDelivery_uses none).run d hd
  | some limit =>
      have looked : Alive c { d with channel := (Channel.now d.channel).2 } := hd.1.used .clock rfl
      rw [fill_limited hl]
      split
      · exact looked.1.dropped
      · exact (takeDelivery_uses _).run _ ⟨looked, hd.2⟩

/-- More is received only where the front of the buffer is no whole frame. -/
theorem receive_uses : Ensures (Alive c) receive (fun _ => Alive c) (fun _ => Stays c) := by
  have taken {d : Connection σ} {frame : Frame} {rest : Bytes}
      {parameters : List (String × String)} (hd : Alive c d)
      (hn : Frame.next d.buffer = .ok (some (frame, rest))) :
      Alive c { d with buffer := rest, parameters } := by
    obtain ⟨front, hb, -⟩ := Frame.next_front hn
    exact hd.within rfl rfl ⟨front, hb.symm⟩
  constructor
  intro d hd
  fun_induction receive d with
  | case1 d e hn => exact hd.1.dropped
  | case2 d hn e d' hf => exact fill_uses.error ⟨hd, hn⟩ hf
  | case3 d hn d' hf ih => exact ih (fill_uses.ok ⟨hd, hn⟩ hf)
  | case4 d frame rest hn => exact Stays.dropped (taken hd hn).1
  | case5 d frame rest hn name value hm ih => exact ih (taken hd hn)
  | case6 d frame rest hn report hm ih => exact ih (taken hd hn)
  | case7 d frame rest hn => exact taken hd hn

/-! ## Exchanges -/

theorem send_uses (messages : List FrontendMessage) :
    Ensures (Alive c) (send messages) (fun _ => Alive c) (fun _ => Stays c) :=
  send_ensures messages (fun h => h.1) (fun bytes h => h.used (.sent bytes h.2) rfl)
    fun h => h.1.dropped

/-- The readers of an answer use the channel only while the connection is usable. -/
theorem readings_uses (c : Connection σ) :
    Readings (Alive c) (fun _ => Alive c) (Stays c) (Rests c) (Stays c) where
  receive := receive_uses.mono (fun _ h => h) (fun _ _ h => by simpa using h) fun _ _ h => h
  applied _ h := ⟨(h.became .ready nofun).within rfl rfl List.suffix_rfl, rfl⟩
  failed {d} h := by
    have ha := aside_failTransaction d
    exact ⟨h.1.aside ha, ha.status.trans h.2⟩
  weaken h := h.1
  lost h := h
  dropped h := h.1.dropped
  cut h := (h.elim (fun h => h.1) id).dropped.within rfl rfl List.suffix_rfl

theorem settle_uses :
    Ensures (Alive c) settle (fun _ => Rests c) (fun _ => Stays c) :=
  (readings_uses c).drained (fun _ h hs => ⟨h.1, ready_of_usable h.2 hs⟩) fun _ h _ => h

theorem send_alive (messages : List FrontendMessage) :
    Ensures (Rests c) (send messages) (fun _ => Alive c) (fun _ => Stays c) :=
  (send_uses messages).mono (fun _ h => h.usable) (fun _ _ h => h) fun _ _ h => h

theorem command_uses (sql : String) :
    Ensures (Rests c) (command sql) (fun _ => Rests c) (fun _ => Stays c) :=
  (send_alive _).bind fun _ => (readings_uses c).command

theorem submit_uses (sql : String) (params : List Value) :
    Ensures (Rests c) (submit sql params) (fun _ => Stays c) (fun _ => Stays c) :=
  (send_alive _).bind fun _ => (readings_uses c).statement fun {d} columns h =>
    (h.became (.streaming d.nextResult columns) nofun).within rfl rfl List.suffix_rfl

/-- Every exchange with the server uses the channel as it may be used. -/
theorem exchanging_stays (pulled : Nat → Prop) (c : Connection σ) :
    Exchanging pulled (Stays c) (Rests c) where
  weaken h := h.1
  ready h hs := ⟨h, hs⟩
  aside := Stays.aside
  aside_ready h ha := ⟨h.1.aside ha, ha.status.trans h.2⟩
  settle := settle_uses
  command sql _ := command_uses sql
  pull _ columns _ := ((readings_uses c).pull (fun h => h.1) columns).mono
    (fun _ h => ⟨h.1, by simp [isUsable, h.2]⟩) (fun _ _ h => h) fun _ _ h => h

/-- The transaction is rolled back and leave is taken, if possible; then the channel is closed,
unless it was before. -/
theorem close_uses (c : Connection σ) : Uses c c.close := by
  have exchanging : Exchanging (fun _ => True) (Stays c) (Rests c) := exchanging_stays _ c
  unfold close
  split
  · exact .refl
  next hopen =>
  have rolled : Stays c (if c.status = .ready ∧ c.transaction ≠ .idle
      then (timedStatement (Connection.command "ROLLBACK") c).2 else c) := by
    split
    · next h =>
        have rollback := exchanging.timedStatement_keeps exchanging.aside_ready
          (exchanging.command_done .rollback)
        exact rollback.state ⟨.refl c, h.1⟩
    · exact .refl c
  dsimp only
  generalize (if c.status = .ready ∧ c.transaction ≠ .idle
    then (timedStatement (Connection.command "ROLLBACK") c).2 else c) = d at rolled ⊢
  have left : Stays c (if d.isUsable then (send [.terminate] d).2 else d) := by
    split
    · next hu =>
        have sent : Ensures (Alive c) (send [.terminate]) (fun _ => Stays c) (fun _ => Stays c) :=
          (send_uses [.terminate]).mono (fun _ h => h) (fun _ _ h => h.1) fun _ _ h => h
        exact sent.state ⟨rolled, hu⟩
    · exact rolled
  exact left.uses.tail (.shut fun hs => hopen (left.closed hs))

/-- No call closes a connection but the one that is there for it. -/
theorem stays_called (c : Connection σ) {call : Call} (h : call ≠ .close) :
    Stays c (c.called call) := by
  have exchanging : Exchanging (fun _ => True) (Stays c) (Rests c) := exchanging_stays _ c
  have start : Stays c c := .refl c
  cases call with
  | execute sql params => exact (exchanging.execute_keeps (submit_uses sql params)).state start
  | nextRow id => exact (exchanging.nextRow_keeps id trivial).state start
  | begin level => exact (exchanging.begin_keeps (command_uses level.sql)).state start
  | commit => exact exchanging.commit_keeps.state start
  | rollback => exact exchanging.rollback_keeps.state start
  | ping => exact exchanging.ping_keeps.state start
  | close => exact absurd rfl h
  | setAutocommit on =>
      have switched : Ensures (Stays c) (setAutocommit on) (fun _ => Stays c) (fun _ => Stays c) :=
        Exchanging.setAutocommit_keeps fun _ h =>
          h.within rfl rfl List.suffix_rfl
      exact switched.state start
  | setStatementTimeout limit => exact start.within rfl rfl List.suffix_rfl

/-- Every operation uses the channel as it may be used. -/
theorem invariant_uses (c : Connection σ) :
    Invariant (fun _ => True) (fun _ => True) (Uses c) := by
  have onward {γ : Type} {action : Action σ γ} (h : ∀ d, Stays d (action d).2) :
      Ensures (Uses c) action (fun _ => Uses c) (fun _ => Uses c) :=
    Ensures.of_state fun d hd => hd.trans (h d).uses
  have called (d : Connection σ) (call : Call) (h : call ≠ .close) : Stays d (d.called call) :=
    stays_called d h
  constructor
  · exact fun sql params => onward fun d => called d (.execute sql params) nofun
  · exact fun id _ => onward fun d => called d (.nextRow id) nofun
  · exact fun sql => onward fun d =>
      ((exchanging_stays (fun _ => True) d).begin_keeps (command_uses sql)).state (.refl d)
  · exact onward fun d => called d .commit nofun
  · exact onward fun d => called d .rollback nofun
  · exact onward fun d => called d .ping nofun
  · exact fun on => onward fun d => called d (.setAutocommit on) nofun
  · exact fun d h => h.trans (close_uses d)
  · exact fun d limit _ h => h.tail (.within rfl rfl List.suffix_rfl)

/-! ## Handshake -/

theorem greets_uses (c : Connection σ) : Greets (Alive c) (Stays c) where
  receive := receive_uses
  keyed _ h := h.within rfl rfl List.suffix_rfl
  weaken h := h.1
  password _ := send_uses _

/-- A connection is made, or what was left of the attempt is closed. -/
theorem connect_uses (options : ConnectOptions) (channel : σ) :
    Uses (fresh options channel) (connect options channel).2 := by
  have aside := aside_started (some options.connectTimeout) (fresh options channel)
  have started : Alive (fresh options channel)
      ((fresh options channel).started (some options.connectTimeout)) :=
    ⟨(Stays.refl _).aside aside, isUsable_of_status aside.status⟩
  have untimed {d : Connection σ} (h : Stays (fresh options channel) d) :
      Uses (fresh options channel) { d with deadline := none } :=
    h.uses.tail (.within rfl rfl List.suffix_rfl)
  have ends : Ends (fun _ => Uses (fresh options channel))
      (fun _ => Uses (fresh options channel)) (connect options channel) :=
    connect_ensures started (((greets_uses _).greet (send_uses _)).mono (fun _ h => h)
      (fun _ _ h => untimed h.1)
      fun _ _ h => Relation.ReflTransGen.trans (untimed h) (close_uses _))
  exact ends.state

end

end SqlWire.Connection
