import SqlWire.Proofs.Client.Rows

/-!
# Passwords that nobody asks for

A connection keeps no password: a client gives it away when its server asks for it while the two
greet each other, and at no other time. If the server does not ask, clients that differ only in
their passwords have one and the same connection, from the handshake to the end.
-/

namespace SqlWire

def BackendMessage.continuesGreeting : BackendMessage → Bool
  | authenticationOk | backendKeyData .. | parameterStatus .. | noticeResponse _ => true
  | _ => false

theorem BackendMessage.continuesGreeting_of_aside {m : BackendMessage} (h : m.isAside = true) :
    m.continuesGreeting = true := by
  cases m with
  | parameterStatus | noticeResponse => rfl
  | _ => cases h

/-- Whether a server that sends these bytes asks for a password in clear text before the greeting
is over, be it that it is ready or that the greeting has failed. -/
def asksPassword (bytes : Bytes) : Bool :=
  match _h : Frame.next bytes with
  | .ok (some (frame, rest)) =>
    match BackendMessage.decode frame with
    | .ok .authenticationCleartextPassword => true
    | .ok m => m.continuesGreeting && asksPassword rest
    | .error _ => false
  | _ => false
termination_by bytes.length
decreasing_by exact Frame.next_shorter _h

section

variable {bytes rest more : Bytes} {frame : Frame} {m : BackendMessage}

theorem asksPassword_request (taken : Frame.next bytes = .ok (some (frame, rest)))
    (read : BackendMessage.decode frame = .ok .authenticationCleartextPassword) :
    asksPassword bytes = true := by
  rw [asksPassword]
  split
  · next h =>
      cases taken.symm.trans h
      rw [read]
  · next h => exact absurd taken (h frame rest)

theorem asksPassword_onward (taken : Frame.next bytes = .ok (some (frame, rest)))
    (read : BackendMessage.decode frame = .ok m) (hm : m.continuesGreeting = true) :
    asksPassword bytes = asksPassword rest := by
  rw [asksPassword]
  split
  · next h =>
      cases taken.symm.trans h
      rw [read]
      cases m with
      | authenticationCleartextPassword => cases hm
      | _ => simp [hm]
  · next h => exact absurd taken (h frame rest)

/-- What a server has asked for it does not take back. -/
theorem asksPassword_append (h : asksPassword bytes = true) :
    asksPassword (bytes ++ more) = true := by
  fun_induction asksPassword bytes with
  | case1 bytes frame rest taken read =>
      exact asksPassword_request (Frame.next_append taken more) read
  | case2 bytes frame rest taken m _ read ih =>
      rw [Bool.and_eq_true] at h
      rw [asksPassword_onward (Frame.next_append taken more) read h.1]
      exact ih h.2
  | case3 | case4 => cases h

/-- A server asks for a password if its request is among the messages, and the greeting goes on
behind all that are in front of it. -/
theorem Spells.asksPassword {ms : List BackendMessage}
    (h : Spells bytes (ms ++ [.authenticationCleartextPassword]))
    (hms : ∀ m ∈ ms, m.continuesGreeting = true) : asksPassword bytes = true := by
  induction ms generalizing bytes with
  | nil =>
      cases h with
      | cons taken read _ => exact asksPassword_request taken read
  | cons m ms ih =>
      obtain ⟨hm, hms⟩ := List.forall_mem_cons.1 hms
      cases h with
      | cons taken read more =>
          rw [asksPassword_onward taken read hm]
          exact ih more hms

end

namespace Connection

section

variable {σ : Type}

/-- The server has asked for a password while it was greeted. -/
def Requested (c : Connection (Traced σ)) : Prop :=
  asksPassword c.heard = true

theorem Requested.longer {c d : Connection (Traced σ)} (h : Requested c)
    (hp : c.heard <+: d.heard) : Requested d := by
  obtain ⟨more, he⟩ := hp
  unfold Requested
  rw [← he]
  exact asksPassword_append h

end

variable {σ : Type} [Channel σ] {c : Connection (Traced σ)}

theorem stable_asked : Stable (fun _ => True) (Requested (σ := σ)) where
  same h hs := h.longer (hs.heard ▸ List.prefix_refl _)
  answered h _ hr := Requested.longer h hr.heard_prefix
  opened h _ hr := Requested.longer h hr.heard_prefix
  pulling _ h _ hr := h.longer hr.heard_prefix
  broken h hb := h.longer hb.heard_prefix
  closed h := h

/-- A client is to give its password only if the server has asked for it. -/
theorem greeting_asked (hs : c.status = .ready) (hh : c.heard = c.buffer) :
    Ensures (· = c) (converse greetingTurn throw none : Action (Traced σ) Greeting)
      (fun greeting d => greeting = .givePassword → Ready Requested d) (fun _ _ => True) := by
  refine Ensures.of_eq (Reads.refl c) (converse_reads
    (I := fun _ ms => ∀ m ∈ ms, m.continuesGreeting = true) (fun key ms m ns hms hm => ?_)
    (fun e => Ensures.throw fun _ _ => trivial) (by simp))
  obtain ⟨asides, rfl, ha, -⟩ := hm
  have before : ∀ m ∈ ms ++ asides, m.continuesGreeting = true :=
    List.forall_mem_append.2 ⟨hms, fun a h => BackendMessage.continuesGreeting_of_aside (ha a h)⟩
  rw [← List.append_assoc]
  cases m with
  | authenticationOk | backendKeyData =>
      exact List.forall_mem_append.2 ⟨before, by simp [BackendMessage.continuesGreeting]⟩
  | authenticationCleartextPassword =>
      refine Ensures.bind (Q := fun _ => Ready Requested) (Ensures.modify fun d hr => ?_)
        fun _ => Ensures.pure fun _ h _ => h
      have start : c.heard = [] ++ c.buffer := hh
      obtain ⟨w, hw, hd⟩ := hr.spelled start
      have asked : asksPassword d.heard = true := by
        rw [hd, List.nil_append]
        exact asksPassword_append (hw.asksPassword before)
      exact ⟨asked, hr.frame.status.trans hs⟩
  | readyForQuery =>
      exact Ensures.bind (Q := fun _ _ => True) (Ensures.modify fun _ _ => trivial)
        fun _ => Ensures.pure fun _ _ h => nomatch h
  | _ => exact Ensures.throw fun _ _ => trivial

/-- Which password a client has makes no difference while nobody asks for it. -/
theorem authenticate_unasked {password : Option String} {times : Nat} (hs : c.status = .ready)
    (hh : c.heard = c.buffer) (unasked : ¬Requested (authenticate password times c).2)
    (password' : Option String) :
    authenticate password' times c = authenticate password times c := by
  cases times with
  | zero => rfl
  | succ times =>
      have greeting := (greeting_asked hs hh).run c rfl
      have asked (d : Connection (Traced σ)) (hd : Ready Requested d) (text : String) :
          Requested ((send [.password text] >>= fun _ => authenticate password times) d).2 := by
        have sent := (stable_asked (σ := σ)).greets.password text
        exact Ensures.state (sent.bind fun _ => (stable_asked.greets.authenticate _ times).mono
          (fun _ h => h) (fun _ _ h => h.1) fun _ _ h => h) hd
      unfold authenticate at unasked ⊢
      rw [bind_apply] at unasked ⊢
      rw [bind_apply]
      rcases hg : converse greetingTurn throw none c with ⟨e | _ | _, d⟩
      · rfl
      · -- The server asked, whether or not there was a password to give.
        rw [hg] at unasked greeting
        have ready : Ready Requested d := greeting rfl
        cases password with
        | none => exact absurd ready.1 unasked
        | some text => exact absurd (asked d ready text) unasked
      · rfl

/-- What is sent has no bearing on what was heard. -/
theorem send_same (messages : List FrontendMessage) :
    Ensures (Same c) (send messages) (fun _ => Same c) (fun _ _ => True) := by
  have anything : Stable (σ := σ) (fun _ => True) fun _ => True :=
    ⟨fun _ _ => trivial, fun _ _ _ => trivial, fun _ _ _ => trivial, fun _ _ _ _ => trivial,
      fun _ _ => trivial, fun _ => trivial⟩
  exact anything.send_keeps Same.trans (fun _ _ => trivial) messages

theorem greet_unasked {options : ConnectOptions} (hs : c.status = .ready) (hh : c.heard = c.buffer)
    (unasked : ¬Requested (greet options c).2) (password : Option String) :
    greet { options with password } c = greet options c := by
  have named : ConnectOptions.startupParams { options with password } = options.startupParams := rfl
  unfold greet at unasked ⊢
  rw [bind_apply] at unasked ⊢
  rw [bind_apply, named]
  rcases hr : send [.startup Protocol.version3 options.startupParams] c with ⟨e | u, d⟩
  · rfl
  · rw [hr] at unasked
    have same : Same c d := (send_same _).ok ⟨rfl, rfl, rfl, rfl⟩ hr
    exact authenticate_unasked (same.status.trans hs)
      (same.heard.trans (hh.trans same.buffer.symm)) unasked password

/-- The attempt to connect comes to the same whatever password it is made with, if it is not asked
for one. -/
theorem connect_unasked {options : ConnectOptions} {channel : σ}
    (unasked : ¬Requested (connect options (Traced.mk channel [])).2) (password : Option String) :
    connect { options with password } (Traced.mk channel []) =
      connect options (Traced.mk channel []) := by
  let c := (fresh options (Traced.mk channel [])).started (some options.connectTimeout)
  have greeted : ¬Requested (greet options c).2 := by
    intro asked
    have untimed (d : Connection (Traced σ)) (h : Requested d) :
        Requested { d with deadline := none } := h
    apply unasked
    unfold connect
    rw [timed_apply]
    rcases hg : greet options c with ⟨e | u, d⟩
    · rw [hg] at asked
      exact stable_asked.invariant.close _ (untimed d asked)
    · rw [hg] at asked
      exact untimed d asked
  have same := greet_unasked rfl rfl greeted password
  have begun : (fresh { options with password } (Traced.mk channel [])).started
      (some (ConnectOptions.connectTimeout { options with password })) = c := rfl
  unfold connect
  rw [timed_apply, timed_apply, begun, same]

/-- All that can be seen of a client over a channel: how its options are shown, what came of the
attempt to connect, what the operations gave and where they left everything, and what is left when
the caller has gone. The channel is part of it, with all that was sent on it. -/
structure Seen (σ : Type) where
  options : String
  made : Except ClientError Unit × Connection σ
  outcomes : List Outcome
  desk : Desk σ
  left : Connection σ

/-- What is seen of a client with these options that does one operation after the other. -/
def seen (options : ConnectOptions) (channel : σ) (operations : List Operation) : Seen σ :=
  let made := connect options channel
  let (outcomes, desk) := Desk.performAll { connection := made.2 } operations
  { options := options.shown, made, outcomes, desk, left := desk.leave }

/-- A password cannot be seen in anything that a client does, whatever its channel and whatever it
is told to do, unless the server has asked for the password while it was greeted. -/
theorem password_unseen (options : ConnectOptions) (password password' : String) (channel : σ)
    (operations : List Operation)
    (unasked : asksPassword (connect { options with password := some password }
      (Traced.mk channel [])).2.heard = false) :
    seen { options with password := some password' } (Traced.mk channel []) operations =
      seen { options with password := some password } (Traced.mk channel []) operations := by
  have silent : ¬Requested
      (connect { options with password := some password } (Traced.mk channel [])).2 :=
    fun asked => Bool.false_ne_true (unasked.symm.trans asked)
  have made : connect { options with password := some password' } (Traced.mk channel []) =
      connect { options with password := some password } (Traced.mk channel []) :=
    connect_unasked silent (some password')
  have shown : ConnectOptions.shown { options with password := some password' } =
      ConnectOptions.shown { options with password := some password } := rfl
  unfold seen
  rw [made, shown]

def trusting : Script :=
  Script.saying [.authenticationOk, .readyForQuery .idle, .emptyQueryResponse, .readyForQuery .idle]

theorem password_unseen_trusted :
    asksPassword (connect { password := some "swordfish" } (Traced.mk trusting [])).2.heard =
        false ∧
      seen { password := some "hunter2" } (Traced.mk trusting []) [.ping, .close] =
        seen { password := some "swordfish" } (Traced.mk trusting []) [.ping, .close] := by
  have unasked : asksPassword
      (connect { password := some "swordfish" } (Traced.mk trusting [])).2.heard = false := by
    decide +kernel
  exact ⟨unasked, password_unseen {} "swordfish" "hunter2" trusting [.ping, .close] unasked⟩

/-- A server that asks can tell two passwords apart. -/
example :
    let asking := Script.saying [.authenticationCleartextPassword, .readyForQuery .idle]
    (connect { password := some "hunter2" } asking).2.channel.events ≠
      (connect { password := some "swordfish" } asking).2.channel.events := by
  decide +kernel

end Connection

end SqlWire
