import SqlWire.Proofs.Client.Gathering
import SqlWire.Proofs.Client.SideBySide

/-!
# Chunks make no difference

Two scripts that deliver the same bytes in different chunks serve a connection alike, from the
handshake to the end: whatever is done with it has the same outcomes, and the same is sent.
-/

namespace SqlWire

namespace Script

variable {s s' : Script} {chunks : List Bytes} {last : Delivery}

theorem SameSending.send (h : SameSending s s') (bytes : Bytes) :
    (s'.send bytes).1 = (s.send bytes).1 ∧ SameSending (s.send bytes).2 (s'.send bytes).2 := by
  have counted := congrArg (· + 1) h.sends
  have failure := congrFun h.failure (s.sends + 1)
  unfold Script.send
  dsimp only
  rw [h.sends, failure]
  cases s.sendFailure (s.sends + 1) with
  | some f => exact ⟨rfl, h.failure, rfl, h.sent⟩
  | none =>
      refine ⟨rfl, h.failure, rfl, ?_⟩
      exact (sent_note_sent _ bytes).trans
        ((congrArg (· ++ [bytes]) h.sent).trans (sent_note_sent _ bytes).symm)

theorem Delivers.send (h : s.Delivers chunks last) (bytes : Bytes) :
    (s.send bytes).2.Delivers chunks last := by
  unfold Script.send
  dsimp only
  split
  · exact ⟨h.deliveries, h.bounds⟩
  · exact ⟨h.deliveries, h.bounds⟩

theorem SameSending.close (h : SameSending s s') : SameSending s.close.2 s'.close.2 :=
  ⟨h.failure, h.sends,
    s'.sent_note_closed.trans (h.sent.trans s.sent_note_closed.symm)⟩

end Script

namespace Connection

section

variable {c d c' d' : Connection Script} {last : Delivery} {limit limit' : Option Nat}

theorem Unread.send {w : Bytes} (h : Unread last w c) (bytes : Bytes) :
    Unread last w { c with channel := (Script.send bytes c.channel).2 } := by
  obtain ⟨chunks, hd, hw⟩ := h
  exact ⟨chunks, hd.send bytes, hw⟩

/-- Both connections send the same, or fail to. -/
theorem send_coupled (messages : List FrontendMessage) {late late' : Connection Script → Prop} :
    Coupled late late' (Live (Twin last limit limit')) (send messages) (send messages)
      (fun _ => Live (Twin last limit limit')) (fun _ => Twin last limit limit') := by
  constructor
  intro c c' h
  unfold send
  cases FrontendMessage.encodeAll messages with
  | error e => exact .error h.1
  | ok bytes =>
      obtain ⟨hf, hs⟩ := h.1.sending.send bytes
      have hu := h.1.unread h.2
      have unread : ∃ w, Unread last w { c with channel := (Script.send bytes c.channel).2 } ∧
          Unread last w { c' with channel := (Script.send bytes c'.channel).2 } :=
        hu.imp fun w hw => ⟨hw.1.send bytes, hw.2.send bytes⟩
      dsimp only [Channel.send]
      generalize Script.send bytes c.channel = r at hf hs unread ⊢
      generalize Script.send bytes c'.channel = r' at hf hs unread ⊢
      obtain ⟨f, s⟩ := r
      obtain ⟨f', s'⟩ := r'
      dsimp only at hf hs unread ⊢
      subst hf
      cases f' with
      | none => exact .ok ⟨h.1.moved rfl rfl h.1.parameters hs fun _ => unread, h.2⟩
      | some f => exact .error (Twin.spent h hs c.buffer c'.buffer)

theorem Unread.of_eq {w : Bytes} (h : Unread last w c) (hc : d.channel = c.channel)
    (hb : d.buffer = c.buffer) : Unread last w d := by
  obtain ⟨chunks, hd, hw⟩ := h
  exact ⟨chunks, hc ▸ hd, hb ▸ hw⟩

theorem Twin.within (h : Twin last limit limit' c c') (hd : Within c d) (hd' : Within c' d')
    (hf : SameFace d d') : Twin last limit limit' d d' := by
  have deadline : d.instant? = c.instant? := congrArg (Option.map Deadline.instant) hd.deadline
  have deadline' : d'.instant? = c'.instant? := congrArg (Option.map Deadline.instant) hd'.deadline
  refine ⟨hf, ?_, ?_, ?_, deadline.trans h.limit, deadline'.trans h.limit',
    hd.statementTimeout.trans h.untimed, fun hu => ?_⟩
  · rw [hd.parameters, hd'.parameters]
    exact h.parameters
  · rw [hd.channel, hd'.channel]
    exact h.sending
  · rw [hd.deadline, hd'.deadline]
    exact h.allowed
  · obtain ⟨w, hw, hw'⟩ := h.unread (hd.usable hu)
    exact ⟨w, hw.of_eq hd.channel hd.buffer, hw'.of_eq hd'.channel hd'.buffer⟩

/-- Without a limit on the time. -/
theorem Twin.unlimited (h : Twin last limit limit' c c') :
    Twin last none none { c with deadline := none } { c' with deadline := none } := by
  have face := h.face
  exact { h with face := { face with }, allowed := rfl, limit := rfl, limit' := rfl }

theorem Twin.shut (h : Twin last limit limit' c c') : Twin last limit limit' c.shut c'.shut := by
  have face := h.face
  exact { h with
    face := { face with transaction := rfl, status := rfl }
    sending := h.sending.close
    unread := fun hu => by cases hu }

theorem not_late (c : Connection Script) : ¬Late none c := by
  intro h
  obtain ⟨instant, hi, -⟩ := h.reached
  cases hi

/-- Whoever reads the same bytes to the same end, in whatever chunks, is served alike. -/
theorem twin_coupling (hlast : ∀ bytes, last ≠ .chunk bytes) :
    Coupling (· = none) (Twin last none none) where
  face h := h.face
  within h := h.within
  markBroken h := h.markBroken
  shut h := h.shut
  started h := by
    rw [h.face.statementTimeout, h.untimed]
    exact h.unlimited
  ended h := h.unlimited
  limited limit hl h := by
    subst hl
    have face := h.face
    exact { h with face := { face with statementTimeout := rfl }, untimed := rfl }
  send messages := send_coupled messages
  receive := (receive_coupled hlast).late_mono (fun c h => not_late c h) fun c h => not_late c h

/-! ## Handshake -/

/-- While they greet, the connections stay the same to see from outside. -/
theorem twin_greets (hlast : ∀ bytes, last ≠ .chunk bytes) :
    GreetsAlike (Late limit) (Late limit') (Live (Twin last limit limit'))
      (Twin last limit limit') where
  receive := receive_coupled hlast
  send messages := send_coupled messages
  keyed {c c'} key h := by
    have face := h.1.face
    refine ⟨h.1.within ⟨rfl, rfl, rfl, rfl, rfl, id⟩ ⟨rfl, rfl, rfl, rfl, rfl, id⟩ ?_, h.2⟩
    exact { face with backendKey := congrArg (key <|> ·) face.backendKey }
  weaken h := h.1

/-- Both clients greet their servers to the same end. -/
theorem GreetsAlike.greet {late late' : Connection Script → Prop}
    {I F : Connection Script → Connection Script → Prop} (hI : GreetsAlike late late' I F)
    (options : ConnectOptions) :
    Coupled late late' I (greet options) (greet options) (fun _ => I) (fun _ => F) := by
  unfold Connection.greet
  refine (hI.send _).bind fun _ => Coupled.get_bind fun c c' h => ?_
  constructor
  intro d d' hd
  obtain ⟨rfl, rfl⟩ := hd
  -- What is at hand may differ, and with it how often a password may be asked for.
  have enough : d.backlog < d.backlog + d'.backlog + 1 := by omega
  have enough' : d'.backlog < d.backlog + d'.backlog + 1 := by omega
  have both := (hI.authenticate options.password (d.backlog + d'.backlog + 1)).run d d' h
  rw [authenticate_enough Script.send_pending options.password (Nat.lt_succ_self _) enough,
    authenticate_enough Script.send_pending options.password (Nat.lt_succ_self _) enough']
  exact both

end

/-! ## The whole course of a connection -/

section

variable {options : ConnectOptions} {s s' : Script} {chunks chunks' : List Bytes} {last : Delivery}

/-- Connecting ends before the time that is allowed for it. -/
def Unexpired (options : ConnectOptions) (s : Script) : Prop :=
  (connect options s).2.channel.time < s.now.1 + options.connectTimeout.nanos

/-- The end of a connection that is of no use takes no time. -/
theorem close_time {c : Connection Script} (h : c.isUsable = false) :
    c.close.channel.time = c.channel.time := by
  have ready : ¬(c.status = .ready ∧ c.transaction ≠ .idle) := by
    intro hr
    simp [isUsable, hr.1] at h
  unfold close
  by_cases hc : c.status = .closed
  · rw [if_pos hc]
  · rw [if_neg hc, if_neg ready]
    dsimp only
    rw [if_neg (by simp [h])]
    rfl

/-- A connection that was late to begin has used up its time. -/
theorem Unexpired.not_late (hu : Unexpired options s) {e : ClientError} {d : Connection Script}
    (hg : greet options ((fresh options s).started (some options.connectTimeout)) = (.error e, d)) :
    ¬Late (some (s.now.1 + options.connectTimeout.nanos)) d := by
  intro late
  obtain ⟨instant, hi, hl⟩ := late.reached
  cases hi
  unfold Unexpired connect at hu
  rw [timed_apply, hg] at hu
  dsimp only at hu
  have still : { d with deadline := none }.close.channel.time = d.channel.time :=
    close_time late.unusable
  rw [still] at hu
  omega

/-- The connections begin with the same to read and the same time. -/
theorem fresh_twin (hs : s.Delivers chunks last) (hs' : s'.Delivers chunks' last)
    (hbytes : chunks.flatten = chunks'.flatten) (hsending : s.SameSending s')
    (htimeout : options.statementTimeout = none) :
    Live (Twin last (some (s.now.1 + options.connectTimeout.nanos))
        (some (s'.now.1 + options.connectTimeout.nanos)))
      ((fresh options s).started (some options.connectTimeout))
      ((fresh options s').started (some options.connectTimeout)) := by
  obtain ⟨hn, hk, -⟩ := hs.now
  obtain ⟨hn', hk', -⟩ := hs'.now
  refine ⟨⟨⟨rfl, rfl, rfl, rfl, rfl, rfl⟩, rfl, hsending.across hk hk', rfl, rfl, rfl, htimeout,
    fun _ => ⟨chunks.flatten, ⟨chunks, hn, rfl⟩, ⟨chunks', hn', hbytes.symm⟩⟩⟩, rfl⟩

/-- Both scripts let the client in, or neither does. -/
theorem connect_alike (hs : s.Delivers chunks last) (hs' : s'.Delivers chunks' last)
    (hbytes : chunks.flatten = chunks'.flatten) (hlast : ∀ bytes, last ≠ .chunk bytes)
    (hsending : s.SameSending s') (htimeout : options.statementTimeout = none)
    (hu : Unexpired options s) (hu' : Unexpired options s') :
    (connect options s').1 = (connect options s).1 ∧
      Twin last none none (connect options s).2 (connect options s').2 := by
  have begun := fresh_twin hs hs' hbytes hsending htimeout
  have greeted := ((twin_greets hlast).greet options).run _ _ begun
  have punctual {e : ClientError} {d : Connection Script} := hu.not_late (e := e) (d := d)
  have punctual' {e : ClientError} {d : Connection Script} := hu'.not_late (e := e) (d := d)
  unfold connect
  rw [timed_apply, timed_apply]
  generalize greet options ((fresh options s).started (some options.connectTimeout)) = r
    at greeted punctual ⊢
  generalize greet options ((fresh options s').started (some options.connectTimeout)) = r'
    at greeted punctual' ⊢
  cases greeted with
  | ok h => exact ⟨rfl, h.1.unlimited⟩
  | error h => exact ⟨rfl, (twin_coupling hlast).close_coupled h.unlimited⟩
  | first h => exact absurd h (punctual rfl)
  | second h => exact absurd h (punctual' rfl)

structure View where
  transaction : TransactionState
  status : ConnectionStatus
  parameters : List (String × String)
  sent : List Bytes
  deriving DecidableEq, Repr

def view (c : Connection Script) : View where
  transaction := c.transaction
  status := c.status
  parameters := c.parameters
  sent := c.channel.sent

theorem Twin.view {limit limit' : Option Nat} {c c' : Connection Script}
    (h : Twin last limit limit' c c') : c'.view = c.view := by
  unfold Connection.view
  rw [h.face.transaction, h.face.status, h.parameters, h.sending.sent]

end

end Connection

namespace Desk

open Connection

def watchAll (d : Desk Script) : List Operation → List (Outcome × View)
  | [] => []
  | operation :: rest =>
    let (outcome, d) := d.perform operation
    (outcome, d.connection.view) :: d.watchAll rest

theorem watchAll_alike {last : Delivery} (hlast : ∀ bytes, last ≠ .chunk bytes)
    (operations : List Operation)
    (hlimits : ∀ limit, .setStatementTimeout limit ∈ operations → limit = none)
    {d d' : Desk Script} (h : Pair (Twin last none none) d d') :
    d'.watchAll operations = d.watchAll operations := by
  induction operations generalizing d d' with
  | nil => rfl
  | cons operation operations ih =>
      obtain ⟨outcome, hnext⟩ := perform_paired (twin_coupling hlast) h operation
        (fun limit hl => hlimits limit (by simp [hl])) fun _ _ => h.connection.parameters
      have later := ih (fun limit hl => hlimits limit (by simp [hl])) hnext
      rw [watchAll, watchAll]
      dsimp only
      rw [outcome, hnext.connection.view, later]

end Desk

namespace Connection

/-- Whatever is done with a connection, from its beginning to its end, the chunks in which the
server's bytes come make no difference: to what each operation gives, to what can be seen of the
connection after it, and to what is sent. -/
theorem chunks_make_no_difference {s s' : Script} {chunks chunks' : List Bytes} {last : Delivery}
    (options : ConnectOptions) (operations : List Operation) (hs : s.Delivers chunks last)
    (hs' : s'.Delivers chunks' last) (hbytes : chunks.flatten = chunks'.flatten)
    (hlast : ∀ bytes, last ≠ .chunk bytes) (hsending : s.SameSending s')
    (htimeout : options.statementTimeout = none)
    (hlimits : ∀ limit, .setStatementTimeout limit ∈ operations → limit = none)
    (hu : Unexpired options s) (hu' : Unexpired options s') :
    let desk : Desk Script := { connection := (connect options s).2 }
    let desk' : Desk Script := { connection := (connect options s').2 }
    (connect options s').1 = (connect options s).1 ∧
      desk'.connection.view = desk.connection.view ∧
      desk'.watchAll operations = desk.watchAll operations ∧
      (desk'.performAll operations).2.leave.view = (desk.performAll operations).2.leave.view := by
  intro desk desk'
  obtain ⟨result, twin⟩ := connect_alike hs hs' hbytes hlast hsending htimeout hu hu'
  have pair : Desk.Pair (Twin last none none) desk desk' := ⟨twin, rfl, rfl⟩
  have performed := Desk.performAll_paired (twin_coupling hlast) operations pair hlimits
    fun _ _ _ h => h.parameters
  exact ⟨result, twin.view, Desk.watchAll_alike hlast operations hlimits pair,
    (Desk.leave_paired (twin_coupling hlast) performed.2).view⟩

def begunBytes : Bytes :=
  [BackendMessage.parameterStatus "zone" "utc", .readyForQuery .idle, .commandComplete "BEGIN",
    .readyForQuery .inTransaction].flatMap fun m => m.encode.toOption.getD []

def begunWhole : Script where
  deliveries := [.chunk begunBytes]

/-- The second chunk is empty, and the third ends amid a message. -/
def begunSplit : Script where
  deliveries := [.chunk (begunBytes.take 3), .chunk [], .chunk ((begunBytes.drop 3).take 30),
    .chunk (begunBytes.drop 33)]
  steps := [2, 1]

theorem chunks_make_no_difference_begun :
    let desk : Desk Script := { connection := (connect {} begunWhole).2 }
    let desk' : Desk Script := { connection := (connect {} begunSplit).2 }
    let operations := [Operation.beginScope "t" .serverDefault, .parameter "zone", .commit]
    desk.connection.status = .ready ∧ (connect {} begunSplit).1 = (connect {} begunWhole).1 ∧
      desk'.connection.view = desk.connection.view ∧
      desk'.watchAll operations = desk.watchAll operations ∧
      (desk'.performAll operations).2.leave.view =
        (desk.performAll operations).2.leave.view := by
  have whole : begunWhole.Delivers [begunBytes] .closed := ⟨⟨[], rfl, rfl⟩, fun _ => rfl⟩
  have split : begunSplit.Delivers [begunBytes.take 3, [], (begunBytes.drop 3).take 30,
      begunBytes.drop 33] .closed := ⟨⟨[], rfl, rfl⟩, fun _ => rfl⟩
  have inTime : Unexpired {} begunWhole := by unfold Unexpired; decide +kernel
  have inTime' : Unexpired {} begunSplit := by unfold Unexpired; decide +kernel
  exact ⟨by decide +kernel, chunks_make_no_difference {} _ whole split (by decide +kernel) nofun
    ⟨rfl, rfl, rfl⟩ rfl (by simp) inTime inTime'⟩

end Connection

end SqlWire
