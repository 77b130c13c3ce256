import SqlWire.Proofs.Server.Synchrony
import SqlWire.Proofs.Wire.Stream

/-!
# Who is let in by a password

A session with a password keeps everybody out until it has read one message behind the one in
which the client names itself. That message decides alone. A session does not tell a message that
is no password from an empty one, so the empty password lets in whoever says anything.
-/

namespace SqlWire

namespace Frame

theorem nextUntagged_append {buffer body rest : Bytes}
    (h : nextUntagged buffer = .ok (some (body, rest))) (more : Bytes) :
    nextUntagged (buffer ++ more) = .ok (some (body, rest ++ more)) := by
  have tagged : next (0 :: buffer) = .ok (some (⟨0, body⟩, rest)) := by
    rw [next_cons, h]
    rfl
  have longer := next_append tagged more
  rw [List.cons_append, next_cons] at longer
  rcases hn : nextUntagged (buffer ++ more) with e | _ | ⟨body', rest'⟩
  · rw [hn] at longer
    cases longer
  · rw [hn] at longer
    cases longer
  · rw [hn] at longer
    cases longer
    rfl

theorem nextUntagged_error_append {buffer : Bytes} {e : WireError}
    (h : nextUntagged buffer = .error e) (more : Bytes) :
    nextUntagged (buffer ++ more) = .error e := by
  have tagged : next (0 :: buffer) = .error e := by
    rw [next_cons, h]
    rfl
  have longer := next_error_append tagged more
  rw [List.cons_append, next_cons] at longer
  rcases hn : nextUntagged (buffer ++ more) with e' | _ | found
  · rw [hn] at longer
    cases longer
    rfl
  · rw [hn] at longer
    cases longer
  · rw [hn] at longer
    cases longer

end Frame

def firstMessage? (bytes : Bytes) : Option FrontendMessage :=
  match Frame.next bytes with
  | .ok (some (frame, _)) => (FrontendMessage.decode frame).toOption
  | _ => none

/-- The first message of a client behind the one in which it names itself, which may come behind
any number of requests for encryption. -/
def secondMessage? (bytes : Bytes) : Option FrontendMessage :=
  match _h : Frame.nextUntagged bytes with
  | .ok (some (body, rest)) =>
    match FrontendMessage.decodeStartup body with
    | .ok .sslRequest => secondMessage? rest
    | .ok (.startup ..) => firstMessage? rest
    | _ => none
  | _ => none
termination_by bytes.length
decreasing_by exact Frame.nextUntagged_shorter _h

def FrontendMessage.given : FrontendMessage → String
  | password text => text
  | _ => ""

theorem FrontendMessage.given_eq_iff {m : FrontendMessage} {text : String} :
    m.given = text ↔ m = .password text ∨ text = "" ∧ ∀ other, m ≠ .password other := by
  cases m with
  | password other => simp [given]
  | _ => simp [given, eq_comm]

theorem secondMessage_of_next {bytes body rest : Bytes}
    (h : Frame.nextUntagged bytes = .ok (some (body, rest))) :
    secondMessage? bytes = match FrontendMessage.decodeStartup body with
      | .ok .sslRequest => secondMessage? rest
      | .ok (.startup ..) => firstMessage? rest
      | _ => none := by
  rw [secondMessage?]
  split
  · next h' =>
      rw [h] at h'
      cases h'
      rfl
  · next h' => exact absurd h (h' body rest)

theorem secondMessage_of_none {bytes : Bytes}
    (h : ∀ body rest, Frame.nextUntagged bytes ≠ .ok (some (body, rest))) :
    secondMessage? bytes = none := by
  rw [secondMessage?]
  split
  · next h' => exact absurd h' (h _ _)
  · rfl

/-- What the bytes of a client say in the place of a password is this one. -/
def Gives (bytes : Bytes) (password : String) : Prop :=
  ∃ m, secondMessage? bytes = some m ∧ m.given = password

theorem firstMessage_of_none {bytes : Bytes}
    (h : ∀ frame rest, Frame.next bytes ≠ .ok (some (frame, rest))) :
    firstMessage? bytes = none := by
  unfold firstMessage?
  split
  · next h' => exact absurd h' (h _ _)
  · rfl

namespace Session

section

variable {t s : Session} {stage : Stage} {user : String} {applicationName : Option String}
  {m : FrontendMessage}

abbrev admission : Outgoing := .message .authenticationOk

structure Outside (t : Session) (stage : Stage) (s : Session) : Prop where
  stage : s.stage = stage
  engine : s.engine = t.engine
  config : s.config = t.config
  idle : s.inTransaction = false
  unsaid : admission ∉ s.sent
  writes : t.writesLeft = none → s.writesLeft = none

theorem Outside.enter (h : Outside t stage s) (next : Stage) :
    Outside t next { s with stage := next } :=
  ⟨rfl, h.engine, h.config, h.idle, h.unsaid, h.writes⟩

theorem Outside.finish (h : Outside t stage s) (error : Option ServerError) :
    Outside t (.ended error) (s.finish error) := by
  unfold Session.finish
  rw [if_neg (by simp [h.idle])]
  exact h.enter _

/-- A write failed, which takes a channel that does not take every write. -/
def Stuck (t : Session) (stage : Stage) (s : Session) : Prop :=
  Outside t stage s ∧ t.writesLeft ≠ none

theorem write_outside :
    Ensures (Outside t stage) useWrite (fun _ => Outside t stage) (fun _ => Stuck t stage) := by
  refine Ensures.get_bind fun s hs => ?_
  rcases hw : s.writesLeft with _ | _ | n
  · exact Ensures.of_eq hs (Ensures.pure fun _ h => h)
  · refine Ensures.of_eq (P := Stuck t stage) ⟨hs, fun ht => ?_⟩ (Ensures.throw fun _ h => h)
    rw [hs.writes ht] at hw
    cases hw
  · refine Ensures.of_eq hs (Ensures.modify fun s' h => ?_)
    refine ⟨h.stage, h.engine, h.config, h.idle, h.unsaid, fun ht => ?_⟩
    rw [hs.writes ht] at hw
    cases hw

theorem Outside.said (h : Outside t stage s) {o : Outgoing} (ho : o ≠ admission) :
    Outside t stage { s with sent := o :: s.sent } :=
  ⟨h.stage, h.engine, h.config, h.idle, by simp [h.unsaid, ho.symm], h.writes⟩

theorem say_outside {m : BackendMessage} (hm : m ≠ .authenticationOk) {bytes : Bytes}
    (he : m.encode = .ok bytes) :
    Ensures (Outside t stage) (send m) (fun _ => Outside t stage) (fun _ => Stuck t stage) := by
  unfold send
  rw [he]
  exact Ensures.bind write_outside fun _ => Ensures.modify fun s h => h.said (by simpa using hm)

/-! ## In front of the gate -/

/-- The session is over, and nobody was let in; if that is for a failed write, the channel does not
take every write. -/
def TurnedAway (t s : Session) : Prop :=
  ∃ error, Outside t (.ended error) s

theorem Stuck.finish (h : Stuck t stage s) (error : Option ServerError) :
    TurnedAway t (s.finish error) ∧ t.writesLeft ≠ none :=
  ⟨⟨error, h.1.finish error⟩, h.2⟩

/-- A request for encryption is turned down, and the session waits on. -/
theorem encryption_waits (h : Outside t .startup s) :
    Outside t .startup (s.takeIn (.ok .sslRequest)) ∨
      TurnedAway t (s.takeIn (.ok .sslRequest)) ∧ t.writesLeft ≠ none := by
  have meets : Ensures (Outside t .startup) (meet .sslRequest)
      (fun go s => go = true ∧ Outside t .startup s) (fun _ => Stuck t .startup) := by
    refine Ensures.bind write_outside fun _ => ?_
    refine Ensures.bind (Q := fun _ => Outside t .startup)
      (Ensures.modify fun s h => h.said (by simp)) fun _ => ?_
    exact Ensures.bind write_outside fun _ => Ensures.pure fun _ h => ⟨rfl, h⟩
  simp only [takeIn, h.stage]
  refine after_of (B := fun s => Outside t .startup s ∨ TurnedAway t s ∧ t.writesLeft ≠ none)
    ((Ensures.of_eq h meets).mono (fun _ h => h) ?_ fun e _ h => .inr (h.finish (some e)))
  exact fun _ _ h => ⟨h.1, .inl h.2⟩

/-- A client that names itself is asked for its password. -/
theorem startup_asks (h : Outside t .startup s) (hp : t.config.password.isSome = true)
    (version : Int32) (params : List (String × String)) :
    (∃ user name, Outside t (.password user name) (s.takeIn (.ok (.startup version params)))) ∨
      TurnedAway t (s.takeIn (.ok (.startup version params))) ∧ t.writesLeft ≠ none := by
  have meets : Ensures (Outside t .startup) (meet (.startup version params))
      (fun go s => go = true ∧ ∃ user name, Outside t (.password user name) s)
      (fun _ => Stuck t .startup) := by
    refine Ensures.get_bind fun u hu => ?_
    rw [if_pos (by rw [hu.config]; exact hp)]
    refine Ensures.of_eq hu ?_
    refine (say_outside (m := .authenticationCleartextPassword) (by simp) rfl).bind fun _ => ?_
    refine Ensures.bind write_outside fun _ => ?_
    refine Ensures.bind (Q := fun _ s => ∃ user name, Outside t (.password user name) s)
      (Ensures.modify fun s h => ⟨_, _, h.enter _⟩) fun _ => ?_
    exact Ensures.pure fun _ h => ⟨rfl, h⟩
  simp only [takeIn, h.stage]
  refine after_of (B := fun s => (∃ user name, Outside t (.password user name) s) ∨
    TurnedAway t s ∧ t.writesLeft ≠ none)
    ((Ensures.of_eq h meets).mono (fun _ h => h) ?_ fun e _ h => .inr (h.finish (some e)))
  exact fun _ _ h => ⟨h.1, .inl h.2⟩

/-- Whoever neither asks for encryption nor names itself is turned away. -/
theorem stranger_leaves (h : Outside t .startup s) (hm : m ≠ .sslRequest)
    (hs : ∀ version params, m ≠ .startup version params) :
    TurnedAway t (s.takeIn (.ok m)) := by
  have meets : meet m s = (.ok false, s) := by
    cases m with
    | sslRequest => exact absurd rfl hm
    | startup version params => exact absurd rfl (hs version params)
    | _ => rfl
  simp only [takeIn, h.stage]
  unfold after
  rw [meets]
  exact ⟨none, h.finish none⟩

theorem checkPassword_right (hm : s.config.password = some m.given) :
    checkPassword user applicationName m s = welcome user applicationName s := by
  unfold checkPassword
  rw [bind_apply, get_apply]
  cases m <;> exact congrFun (if_pos hm) s

theorem checkPassword_wrong (hm : s.config.password ≠ some m.given) :
    checkPassword user applicationName m s = (do
      send (.errorResponse (.fatal SqlState.invalidPassword
        ("password authentication failed for user \"" ++ user ++ "\"")))
      flush
      return false : Serving Bool) s := by
  unfold checkPassword
  rw [bind_apply, get_apply]
  cases m <;> exact congrFun (if_neg hm) s

/-- Another password turns the client away. -/
theorem wrong_turns_away (h : Outside t (.password user applicationName) s)
    (hm : t.config.password ≠ some m.given) : TurnedAway t (s.takeIn (.ok m)) := by
  have reported (report : Diagnostic) :
      Ensures (Outside t (.password user applicationName)) (send (.errorResponse report))
        (fun _ => Outside t (.password user applicationName))
        (fun _ => Outside t (.password user applicationName)) := by
    cases he : (BackendMessage.errorResponse report).encode with
    | ok bytes =>
        exact (say_outside (by simp) he).mono (fun _ h => h) (fun _ _ h => h) fun _ _ h => h.1
    | error e =>
        unfold send
        rw [he]
        exact Ensures.throw fun _ h => h
  have checks : Ensures (· = s) (checkPassword user applicationName m)
      (fun go s => go = false ∧ Outside t (.password user applicationName) s)
      (fun _ => Outside t (.password user applicationName)) := by
    constructor
    rintro _ rfl
    rw [checkPassword_wrong (by rw [h.config]; exact hm)]
    refine Ensures.run (P := Outside t (.password user applicationName)) ?_ _ h
    refine (reported _).bind fun _ => ?_
    exact Ensures.bind (write_outside.mono (fun _ h => h) (fun _ _ h => h) fun _ _ h => h.1)
      fun _ => Ensures.pure fun _ h => ⟨rfl, h⟩
  simp only [takeIn, h.stage]
  refine after_either (B := TurnedAway t) (checks.mono (fun _ h => h) ?_ ?_)
  · rintro go s ⟨rfl, h⟩
    exact ⟨none, h.finish none⟩
  · exact fun e s h => ⟨some e, h.finish (some e)⟩

/-! ## Behind the gate -/

/-- What a session has said, it has said for good. -/
theorem talks_admitted : Talks fun s : Session => admission ∈ s.sent where
  wrote _ h := h
  said _ h := List.mem_cons_of_mem _ h
  held _ _ _ h := h
  onward _ _ _ h := h
  aborted h := h

/-- The configured password lets the client in, who is told so. -/
theorem right_lets_in (h : Outside t (.password user applicationName) s)
    (hm : t.config.password = some m.given) (hw : t.writesLeft = none) :
    admission ∈ (s.takeIn (.ok m)).sent := by
  have welcomes : Ensures (· = s) (welcome user applicationName)
      (fun _ s => admission ∈ s.sent) (fun _ s => admission ∈ s.sent) := by
    refine Ensures.bind (Q := fun _ s => admission ∈ s.sent) ⟨?_⟩ fun _ =>
      talks_admitted.introduce user applicationName
    rintro _ rfl
    rw [send_eq _ (h.writes hw)]
    exact List.mem_cons_self
  have checks : Ensures (· = s) (checkPassword user applicationName m)
      (fun _ s => admission ∈ s.sent) (fun _ s => admission ∈ s.sent) := by
    constructor
    rintro _ rfl
    rw [checkPassword_right (by rw [h.config]; exact hm)]
    exact welcomes.run _ rfl
  simp only [takeIn, h.stage]
  refine after_either (B := fun s => admission ∈ s.sent) (checks.mono (fun _ h => h) ?_ ?_)
  · intro go s h
    split
    · exact h
    · rw [finish_sent]
      exact h
  · intro e s h
    rw [finish_sent]
    exact h

theorem takeIn_admitted (read : Except WireError FrontendMessage) (h : admission ∈ s.sent) :
    admission ∈ (s.takeIn read).sent := by
  cases read with
  | error e =>
      change admission ∈ (s.finish _).sent
      rwa [finish_sent]
  | ok m => exact (takeIn_grows m s).sent.subset h

/-! ## The whole session -/

variable {password : String} {bytes w : Bytes}

/-- Where a session stands that began at `t` and is to read all of `bytes`, of which `w` is left. -/
inductive Gate (t : Session) (password : String) (bytes : Bytes) : Session → Bytes → Prop
  | waiting {s : Session} {w : Bytes} (h : Outside t .startup s)
      (hw : secondMessage? w = secondMessage? bytes) : Gate t password bytes s w
  | asked {s : Session} {w : Bytes} {user : String} {applicationName : Option String}
      (h : Outside t (.password user applicationName) s)
      (hw : firstMessage? w = secondMessage? bytes) : Gate t password bytes s w
  | away {s : Session} {w : Bytes} (h : TurnedAway t s)
      (hw : t.writesLeft = none → ¬Gives bytes password) : Gate t password bytes s w
  | inside {s : Session} {w : Bytes} (h : Gives bytes password)
      (hs : t.writesLeft = none → admission ∈ s.sent) : Gate t password bytes s w

theorem not_gives (h : secondMessage? bytes = none) : ¬Gives bytes password := by
  rintro ⟨m, hm, -⟩
  rw [h] at hm
  cases hm

theorem nextMessage_startup (hs : s.stage = .startup) (buffer : Bytes) :
    s.nextMessage buffer = (Frame.nextUntagged buffer).map
      (Option.map fun (body, rest) => (FrontendMessage.decodeStartup body, rest)) := by
  simp only [nextMessage, hs]

theorem nextMessage_password (hs : s.stage = .password user applicationName) (buffer : Bytes) :
    s.nextMessage buffer = (Frame.next buffer).map
      (Option.map fun (frame, rest) => (FrontendMessage.decode frame, rest)) := by
  simp only [nextMessage, hs]

theorem nextMessage_ended {error : Option ServerError} (hs : s.stage = .ended error)
    (buffer : Bytes) : s.nextMessage buffer = .ok none := by
  simp only [nextMessage, hs]

section

variable {buffer rest more : Bytes} {read : Except WireError FrontendMessage}

/-- The first message is taken in. -/
theorem Gate.greeted (hp : t.config.password = some password) {body : Bytes}
    (h : Outside t .startup s) (hw : secondMessage? (buffer ++ more) = secondMessage? bytes)
    (hn : Frame.nextUntagged buffer = .ok (some (body, rest))) :
    Gate t password bytes (s.takeIn (FrontendMessage.decodeStartup body)) (rest ++ more) := by
  rw [secondMessage_of_next (Frame.nextUntagged_append hn more)] at hw
  cases hd : FrontendMessage.decodeStartup body with
  | error e =>
      rw [hd] at hw
      exact .away ⟨_, h.finish _⟩ fun _ => not_gives hw.symm
  | ok m =>
      rw [hd] at hw
      cases m with
      | sslRequest =>
          rcases encryption_waits h with h | ⟨h, ht⟩
          · exact .waiting h hw
          · exact .away h fun hl => absurd hl ht
      | startup version params =>
          rcases startup_asks h (by rw [hp]; rfl) version params with ⟨user, name, h⟩ | ⟨h, ht⟩
          · exact .asked h hw
          · exact .away h fun hl => absurd hl ht
      | _ => exact .away (stranger_leaves h (by simp) (by simp)) fun _ => not_gives hw.symm

/-- The second message is taken in, and decides. -/
theorem Gate.decided (hp : t.config.password = some password) {frame : Frame}
    (h : Outside t (.password user applicationName) s)
    (hw : firstMessage? (buffer ++ more) = secondMessage? bytes)
    (hn : Frame.next buffer = .ok (some (frame, rest))) :
    Gate t password bytes (s.takeIn (FrontendMessage.decode frame)) (rest ++ more) := by
  unfold firstMessage? at hw
  rw [Frame.next_append hn more] at hw
  dsimp only at hw
  cases hd : FrontendMessage.decode frame with
  | error e =>
      rw [hd] at hw
      exact .away ⟨_, h.finish _⟩ fun _ => not_gives hw.symm
  | ok m =>
      rw [hd] at hw
      by_cases hm : m.given = password
      · exact .inside ⟨m, hw.symm, hm⟩ (right_lets_in h (by rw [hp, hm]))
      · refine .away (wrong_turns_away h (by rw [hp]; simpa using Ne.symm hm)) fun _ => ?_
        rintro ⟨m', hm', hg⟩
        rw [← hw] at hm'
        cases hm'
        exact hm hg

/-- What a session takes in brings it on at the gate. -/
theorem Gate.takeIn (hp : t.config.password = some password)
    (h : Gate t password bytes s (buffer ++ more))
    (hn : s.nextMessage buffer = .ok (some (read, rest))) :
    Gate t password bytes (s.takeIn read) (rest ++ more) := by
  cases h with
  | waiting h hw =>
      rw [nextMessage_startup h.stage] at hn
      rcases hu : Frame.nextUntagged buffer with e | _ | ⟨body, rest'⟩
      · rw [hu] at hn
        cases hn
      · rw [hu] at hn
        cases hn
      · rw [hu] at hn
        cases hn
        exact Gate.greeted hp h hw hu
  | asked h hw =>
      rw [nextMessage_password h.stage] at hn
      rcases hu : Frame.next buffer with e | _ | ⟨frame, rest'⟩
      · rw [hu] at hn
        cases hn
      · rw [hu] at hn
        cases hn
      · rw [hu] at hn
        cases hn
        exact Gate.decided hp h hw hu
  | away h hw =>
      obtain ⟨error, h⟩ := h
      rw [nextMessage_ended h.stage] at hn
      cases hn
  | inside h hs => exact .inside h fun ht => takeIn_admitted read (hs ht)

/-- A length that no message can have ends the session. -/
theorem Gate.malformed {e : WireError} (h : Gate t password bytes s (buffer ++ more))
    (hn : s.nextMessage buffer = .error e) (w : Bytes) :
    Gate t password bytes (s.finish (some (.protocol e))) w := by
  cases h with
  | waiting h hw =>
      rw [nextMessage_startup h.stage] at hn
      rcases hu : Frame.nextUntagged buffer with e' | found
      · rw [secondMessage_of_none fun _ _ => by
          rw [Frame.nextUntagged_error_append hu more]; simp] at hw
        exact .away ⟨_, h.finish _⟩ fun _ => not_gives hw.symm
      · rw [hu] at hn
        cases hn
  | asked h hw =>
      rw [nextMessage_password h.stage] at hn
      rcases hu : Frame.next buffer with e' | found
      · rw [firstMessage_of_none fun _ _ => by rw [Frame.next_error_append hu more]; simp] at hw
        exact .away ⟨_, h.finish _⟩ fun _ => not_gives hw.symm
      · rw [hu] at hn
        cases hn
  | away h hw =>
      obtain ⟨error, h⟩ := h
      exact .away ⟨_, h.finish _⟩ hw
  | inside h hs =>
      refine .inside h fun ht => ?_
      rw [finish_sent]
      exact hs ht

theorem Gate.serve (hp : t.config.password = some password)
    (h : Gate t password bytes s (buffer ++ more)) :
    Gate t password bytes (s.serve buffer).1 ((s.serve buffer).2 ++ more) := by
  fun_induction Session.serve s buffer with
  | case1 s buffer e hn => exact h.malformed hn _
  | case2 s buffer hn => exact h
  | case3 s buffer read rest hn ih => exact ih (h.takeIn hp hn)

theorem Gate.serveChunks (hp : t.config.password = some password) {chunks : List Bytes}
    (h : Gate t password bytes s (buffer ++ chunks.flatten)) :
    Gate t password bytes (s.serveChunks buffer chunks).1 (s.serveChunks buffer chunks).2 := by
  induction chunks generalizing s buffer with
  | nil => rwa [List.flatten_nil, List.append_nil] at h
  | cons chunk chunks ih =>
      rw [List.flatten_cons, ← List.append_assoc] at h
      exact ih (h.serve hp)

end

/-- Nothing that could be taken in is left. -/
theorem serve_exhausts (s : Session) (buffer : Bytes) :
    (s.serve buffer).1.nextMessage (s.serve buffer).2 = .ok none := by
  fun_induction Session.serve s buffer with
  | case1 => rfl
  | case2 s buffer hn => exact hn
  | case3 s buffer read rest hn ih => exact ih

theorem serveChunks_exhausts {buffer : Bytes} (h : s.nextMessage buffer = .ok none)
    (chunks : List Bytes) :
    (s.serveChunks buffer chunks).1.nextMessage (s.serveChunks buffer chunks).2 = .ok none := by
  induction chunks generalizing s buffer with
  | nil => exact h
  | cons chunk chunks ih => exact ih (serve_exhausts s (buffer ++ chunk))

/-- When the client is gone, it was let in only by the password, and by the password it was. -/
theorem Gate.result (h : Gate t password bytes s w) (hn : s.nextMessage w = .ok none) :
    (admission ∈ s.hangUp.sent ∨ s.hangUp.engine ≠ t.engine → Gives bytes password) ∧
      (t.writesLeft = none → Gives bytes password → admission ∈ s.hangUp.sent) := by
  have sent : s.hangUp.sent = s.sent := by
    unfold hangUp
    split
    · rfl
    · exact finish_sent none s
  have kept {stage : Stage} (h : Outside t stage s) :
      ¬(admission ∈ s.hangUp.sent ∨ s.hangUp.engine ≠ t.engine) := by
    rintro (hs | he)
    · rw [sent] at hs
      exact h.unsaid hs
    · refine he ?_
      unfold hangUp
      split
      · exact h.engine
      · exact (h.finish none).engine
  cases h with
  | waiting h hw =>
      rw [nextMessage_startup h.stage] at hn
      rw [secondMessage_of_none fun _ _ hu => by rw [hu] at hn; cases hn] at hw
      exact ⟨fun ha => absurd ha (kept h), fun _ hg => absurd hg (not_gives hw.symm)⟩
  | asked h hw =>
      rw [nextMessage_password h.stage] at hn
      rw [firstMessage_of_none fun _ _ hu => by rw [hu] at hn; cases hn] at hw
      exact ⟨fun ha => absurd ha (kept h), fun _ hg => absurd hg (not_gives hw.symm)⟩
  | away h hw =>
      obtain ⟨error, h⟩ := h
      exact ⟨fun ha => absurd ha (kept h), fun ht hg => absurd hg (hw ht)⟩
  | inside h hs => exact ⟨fun _ => h, fun ht _ => sent ▸ hs ht⟩

end

/-- The gate of a session with a password. Whatever bytes a client sends, however they are cut,
whatever the engine does and wherever a write fails: the client is told that it is let in, and the
engine that was just opened is called, only if the first tagged message behind the one in which the
client names itself gives the password, or says anything but a password where the password is
empty. If no write fails, such a client is let in. -/
theorem password_admits (config : ServerConfig) (processId secretKey : Int32) (engine : Engine)
    (writes : Option Nat) (chunks : List Bytes) (password : String)
    (required : config.password = some password) :
    let start := openedOn config processId secretKey engine writes
    let final := start.run chunks
    let told := secondMessage? chunks.flatten
    let admitted := told = some (.password password) ∨
      password = "" ∧ ∃ m, told = some m ∧ ∀ text, m ≠ .password text
    (.message .authenticationOk ∈ final.sent ∨ final.engine ≠ start.engine → admitted) ∧
      (writes = none → admitted → .message .authenticationOk ∈ final.sent) := by
  intro start final told admitted
  have gives : Gives chunks.flatten password ↔ admitted := by
    constructor
    · rintro ⟨m, hm, hg⟩
      rcases FrontendMessage.given_eq_iff.1 hg with rfl | ⟨hp, hother⟩
      · exact .inl hm
      · exact .inr ⟨hp, m, hm, hother⟩
    · rintro (hm | ⟨hp, m, hm, hother⟩)
      · exact ⟨_, hm, rfl⟩
      · exact ⟨m, hm, FrontendMessage.given_eq_iff.2 (.inr ⟨hp, hother⟩)⟩
  have outside : Outside start .startup start :=
    ⟨rfl, rfl, rfl, rfl, by simp [start, openedOn, opened], id⟩
  have gate : Gate start password chunks.flatten start ([] ++ chunks.flatten) :=
    .waiting outside rfl
  have result := (gate.serveChunks (by exact required)).result
    (serveChunks_exhausts (by rfl) chunks)
  rw [← gives]
  exact result

def saying (ms : List FrontendMessage) : Bytes :=
  (FrontendMessage.encodeAll (.startup Protocol.version3 [("user", "u")] :: ms)).toOption.getD []

theorem password_admits_secret :
    let config : ServerConfig := { databasePath := "", password := some "secret" }
    let start := openedOn config 1 2 { answers := [] } none
    let final := start.run [saying [.password "secret"]]
    let told := secondMessage? [saying [.password "secret"]].flatten
    let admitted := told = some (.password "secret") ∨
      "secret" = "" ∧ ∃ m, told = some m ∧ ∀ text, m ≠ .password text
    config.password = some "secret" ∧
      (.message .authenticationOk ∈ final.sent ∨ final.engine ≠ start.engine → admitted) ∧
      ((none : Option Nat) = none → admitted → .message .authenticationOk ∈ final.sent) :=
  ⟨rfl, password_admits { databasePath := "", password := some "secret" } 1 2 { answers := [] }
    none [saying [.password "secret"]] "secret" rfl⟩

/-- Where the password is empty, a client that asks for synchronisation in its place is let in, and
has its statement run. -/
theorem empty_password_admits_anyone :
    let config : ServerConfig := { databasePath := "", password := some "" }
    let start := openedOn config 1 2 { answers := [] } none
    let final := start.run [saying [.sync, .query "DELETE FROM t"]]
    secondMessage? (saying [.sync, .query "DELETE FROM t"]) = some .sync ∧
      .message .authenticationOk ∈ final.sent ∧
      .prepare "DELETE FROM t" ∈ final.engine.calls := by
  intro config start final
  decide +kernel

end Session

end SqlWire
