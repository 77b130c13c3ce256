import SqlWire.Proofs.Server.Answers

/-!
# Letting a client in

A client that names itself is let in, turned away, or asked for a password, and then let in or
turned away. Either way it is told so before the session does anything else.
-/

namespace SqlWire

namespace Session

section

variable {t : Session} {mayAsk : Bool}

def Greeting (mayAsk : Bool) (t s : Session) : Prop :=
  Trail (.greeting mayAsk) t (.greeting mayAsk) s ∧ s.inTransaction = false ∧ s.aborted = false

theorem greet_send (m : BackendMessage) (hp : m.Plain)
    (hn : (Phase.greeting mayAsk).next m.received = some (.greeting mayAsk)) :
    Ensures (Greeting mayAsk t) (send m) (fun _ => Greeting mayAsk t)
      (fun _ => Halted (.greeting mayAsk) t) :=
  Trail.send (I := fun s => s.inTransaction = false ∧ s.aborted = false) m hp trivial hn
    fun _ _ h => h

/-- A client that is let in is told everything that the session has to say of itself. -/
theorem welcome_concludes (ht : t.Alone) (user : String) (applicationName : Option String) :
    Ensures (· = t) (welcome user applicationName)
      (fun go s => go = true ∧ Concludes (.greeting mayAsk) t s)
      (fun e s => Concludes (.greeting mayAsk) t (s.finish (some e))) := by
  have key (s : Session) : Ensures (Greeting mayAsk t)
      (send (.backendKeyData s.processId s.secretKey)) (fun _ => Greeting mayAsk t)
      (fun _ => Halted (.greeting mayAsk) t) := greet_send _ trivial rfl
  have last : Ensures (Greeting mayAsk t)
      (do ready; modify fun s => { s with stage := .serving }; return true)
      (fun go s => go = true ∧ Concludes (.greeting mayAsk) t s)
      (fun _ => Halted (.greeting mayAsk) t) := by
    constructor
    intro s hs
    obtain ⟨hs, hi, ha⟩ := hs
    obtain ⟨bytes, hb⟩ := encode_ready s.status
    rw [bind_apply, ready_eq hs.writes]
    refine ⟨rfl, .ready s.status, ?_, ?_⟩
    · exact hs.goes.trans (Goes.message (m := BackendMessage.readyForQuery s.status) trivial hb rfl
        (by simp [BackendMessage.received, Phase.next, status, hi, ha]))
    · exact .quiet ⟨⟨rfl, hs.writes, Sound.of_outside hi ha⟩, hs.skipping.trans ht.skipping⟩ rfl
  have rest : Ensures (Greeting mayAsk t)
      (do
        let s ← get
        send (.backendKeyData s.processId s.secretKey)
        ready
        modify fun s => { s with stage := .serving }
        return true)
      (fun go s => go = true ∧ Concludes (.greeting mayAsk) t s)
      (fun _ => Halted (.greeting mayAsk) t) := by
    refine Ensures.get_bind fun s hs => ?_
    exact Ensures.of_eq hs ((key s).bind fun _ => last)
  have all : Ensures (Greeting mayAsk t) (welcome user applicationName)
      (fun go s => go = true ∧ Concludes (.greeting mayAsk) t s)
      (fun _ => Halted (.greeting mayAsk) t) := by
    unfold welcome
    refine (greet_send .authenticationOk trivial rfl).bind fun _ => ?_
    refine (greet_send (.parameterStatus _ _) trivial rfl).bind fun _ => ?_
    refine (greet_send (.parameterStatus _ _) trivial rfl).bind fun _ => ?_
    refine (greet_send (.parameterStatus _ _) trivial rfl).bind fun _ => ?_
    cases applicationName with
    | none => exact rest
    | some name => exact (greet_send (.parameterStatus _ _) trivial rfl).bind fun _ => rest
  refine all.mono ?_ (fun _ _ h => h) fun e _ h => h.finish (some e)
  intro s hs
  subst hs
  exact ⟨Trail.refl _ ht.writes, ht.outside, ht.healthy⟩

/-- A client that names itself is let in or asked for its password. -/
theorem startup_concludes (ht : t.Alone) (hs : t.stage = .startup) (version : Int32)
    (params : List (String × String)) :
    Concludes (.greeting true) t (t.takeIn (.ok (.startup version params))) := by
  simp only [takeIn, hs]
  apply after_of
  unfold meet
  refine Ensures.get_bind ?_
  intro t ht
  subst ht
  split
  · have asked : Ensures (· = t) (send .authenticationCleartextPassword)
        (fun _ s => Trail (.greeting true) t .asked s ∧ s.inTransaction = false ∧ s.aborted = false)
        (fun _ => Halted (.greeting true) t) := by
      refine Ensures.of_eq ?_ (Trail.send (q := .greeting true)
        (I := fun s => s.inTransaction = false ∧ s.aborted = false)
        .authenticationCleartextPassword trivial trivial rfl fun _ _ h => h)
      exact ⟨Trail.refl _ ht.writes, ht.outside, ht.healthy⟩
    refine Ensures.bind (asked.mono (fun _ h => h) (fun _ _ h => h)
      fun e _ h => h.finish (some e)) fun _ => ?_
    constructor
    intro s hs
    obtain ⟨ha, hi, hh⟩ := hs
    unfold flush
    rw [bind_apply, useWrite_eq ha.writes]
    exact ⟨rfl, .asked, ha.goes.trans (Goes.of_sent_eq _ rfl),
      .asked rfl ⟨ha.writes, ha.skipping.trans ht.skipping, hi, hh⟩⟩
  · exact welcome_concludes ht _ _

/-- A client that gives a password is let in or turned away. -/
theorem password_concludes (ht : t.Alone) {user : String} {applicationName : Option String}
    (hs : t.stage = .password user applicationName) (text : String) :
    Concludes (.greeting false) t (t.takeIn (.ok (.password text))) := by
  simp only [takeIn, hs]
  apply after_either
  unfold checkPassword
  refine Ensures.get_bind ?_
  intro t ht
  subst ht
  by_cases hp : t.config.password = some text
  · rw [if_pos hp]
    refine (welcome_concludes ht user applicationName).mono (fun _ h => h) ?_ fun _ _ h => h
    intro _ s hs
    obtain ⟨rfl, h⟩ := hs
    exact h
  · rw [if_neg hp]
    have refused (report : Diagnostic) : Ensures (· = t) (send (.errorResponse report))
        (fun _ s => Trail (.greeting false) t .refused s ∧ True)
        (fun _ => Halted (.greeting false) t) := by
      refine Ensures.of_eq ?_ (Trail.send (q := .greeting false) (I := fun _ => True)
        (.errorResponse report) trivial trivial rfl fun _ _ h => h)
      exact ⟨Trail.refl _ ht.writes, trivial⟩
    refine Ensures.bind ((refused _).mono (fun _ h => h) (fun _ _ h => h)
      fun e _ h => h.finish (some e)) fun _ => ?_
    constructor
    intro s hs
    obtain ⟨hr, -⟩ := hs
    unfold flush
    rw [bind_apply, useWrite_eq hr.writes]
    exact ⟨.refused, hr.goes.finish none, .ended (finish_over none s) trivial⟩

/-- The message in which a client names itself is taken in. -/
theorem serve_startup (hs : t.stage = .startup) {params : List (String × String)} {bytes : Bytes}
    (he : (FrontendMessage.startup Protocol.version3 params).encode = .ok bytes) :
    ∃ read, (∀ m, read = .ok m → ∃ params, m = .startup Protocol.version3 params) ∧
      t.serve bytes = (t.takeIn read, []) := by
  obtain ⟨body, hb, hf⟩ := ok_of_bind he
  have hn := Frame.nextUntagged_untagged hf []
  rw [List.append_nil] at hn
  have hm : t.nextMessage bytes = .ok (some (FrontendMessage.decodeStartup body, [])) := by
    simp only [nextMessage, hs, hn]
    rfl
  refine ⟨FrontendMessage.decodeStartup body, fun m hd => ?_, ?_⟩
  · exact FrontendMessage.decodeStartup_startup hb hd
  · rw [serve, hm]
    dsimp only
    rw [serve_nil]

theorem startup_served (ht : t.Alone) (hs : t.stage = .startup) {params : List (String × String)}
    {bytes : Bytes} (he : (FrontendMessage.startup Protocol.version3 params).encode = .ok bytes) :
    Served (.greeting true) t (t.serve bytes) := by
  obtain ⟨read, hread, hserve⟩ := serve_startup hs he
  rw [hserve]
  refine ⟨?_, .inl rfl⟩
  cases read with
  | error e =>
      exact ⟨.greeting true, (Goes.of_sent_eq _ rfl).finish _, .ended (finish_over _ t) trivial⟩
  | ok m =>
      obtain ⟨params, rfl⟩ := hread m rfl
      exact startup_concludes ht hs _ params

theorem password_served (ht : t.Alone) {user : String} {applicationName : Option String}
    (hs : t.stage = .password user applicationName) {text : String} {bytes : Bytes}
    (he : (FrontendMessage.password text).encode = .ok bytes) :
    Served (.greeting false) t (t.serve bytes) := by
  have ho : ¬t.Over := fun ⟨_, ho⟩ => by simp [hs] at ho
  obtain ⟨body, hb, hserve⟩ := serve_tagged (by simp [hs]) ho rfl he []
  rw [List.append_nil] at hserve
  rw [hserve, serve_nil, FrontendMessage.decode_password hb]
  exact ⟨password_concludes ht hs text, .inl rfl⟩

end

end Session

end SqlWire
