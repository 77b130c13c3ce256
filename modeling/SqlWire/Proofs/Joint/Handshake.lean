import SqlWire.Proofs.Client.Readers
import SqlWire.Proofs.Joint.Operations

/-!
# How a connection to a session begins

A client that names itself is let in by the session, or it is told why not. The connection that
comes of it is settled with its session; if there is none, the channel is closed.
-/

namespace SqlWire

open Session

namespace Connection

section

variable {σ : Type} [Joined σ] {terms : Terms σ} {s : Session} {c : Connection σ}
  {options : ConnectOptions}

inductive Rejected (terms : Terms σ) (options : ConnectOptions) : ClientError → Connection σ → Prop
  | passwordMissing {c : Connection σ} (h : options.password = none) :
      Rejected terms options .passwordMissing c
  | reported {c : Connection σ} (report : Diagnostic) :
      Rejected terms options (.sessionRejected report) c
  | unsendable {c : Connection σ} {m : FrontendMessage} {w : WireError}
      (hm : m = .startup Protocol.version3 options.startupParams ∨
        ∃ text, options.password = some text ∧ m = .password text)
      (he : m.encode = .error w) : Rejected terms options (.ofWire w) c
  | lost {e : ClientError} {c : Connection σ} (h : Lost terms e c) : Rejected terms options e c

/-- Nothing is left to be read, and the session is quiet and outside any transaction. -/
def Admitted (terms : Terms σ) (c : Connection σ) : Prop :=
  ∃ s, Hears terms s .ready [] c ∧ s.Quiet ∧ s.inTransaction = false

def Asked (terms : Terms σ) (c : Connection σ) : Prop :=
  ∃ s user applicationName, Hears terms s .ready [] c ∧ s.Alone ∧
    s.stage = .password user applicationName

theorem Awaits.keyed {old : ConnectionStatus} {p : Phase} (h : Awaits terms s old p c)
    (backendKey : Option BackendKey) : Awaits terms s old p { c with backendKey } := by
  obtain ⟨todo, q, h, hq⟩ := h
  exact ⟨todo, q, h.reset h.limited.statement, hq⟩

theorem Awaits.admitted (h : Awaits terms s .ready (.ready .idle) c) : Admitted terms c := by
  obtain ⟨todo, q, hc, hq, hclosing⟩ := h
  have htodo := Phase.after_ready hq
  subst htodo
  cases hq
  cases hclosing with
  | quiet hs hstatus =>
      refine ⟨s, hc, hs, ?_⟩
      cases hi : s.inTransaction with
      | false => rfl
      | true => cases ha : s.aborted <;> simp [Session.status, ha, hi] at hstatus
  | ended ho hp => cases hp

theorem Awaits.asked (h : Awaits terms s .ready .asked c) : Asked terms c := by
  obtain ⟨todo, q, hc, hq, hclosing⟩ := h
  cases todo with
  | cons m todo => cases hq
  | nil =>
      cases hq
      cases hclosing with
      | ended ho hp => cases hp
      | asked hs ha => exact ⟨s, _, _, hc, ha, hs⟩

def Greeted (terms : Terms σ) (mayAsk : Bool) : Greeting → Connection σ → Prop
  | .givePassword, c => mayAsk = true ∧ Asked terms c
  | .begin, c => Admitted terms c

theorem greetingTurn_comes {mayAsk : Bool} {key : Option BackendKey} {q : Phase}
    {m : BackendMessage} (ha : m.isAside = false) (hq : (Phase.greeting mayAsk).next m = some q) :
    (greetingTurn (σ := σ) key m).Comes (fun _ => q = .greeting mayAsk)
      fun action => Ensures (Awaits terms s .ready q) action (Greeted terms mayAsk)
        (Rejected terms options) := by
  cases m with
  | parameterStatus => cases ha
  | authenticationOk | backendKeyData =>
      cases hq
      rfl
  | authenticationCleartextPassword =>
      cases mayAsk with
      | false => cases hq
      | true =>
          cases hq
          refine Ensures.bind (Q := fun _ => Asked terms) (Ensures.modify ?_)
            fun _ => Ensures.pure fun c h => ⟨rfl, h⟩
          exact fun c hc => (hc.keyed _).asked
  | errorResponse report => exact Ensures.throw fun c _ => .reported report
  | readyForQuery status =>
      have hs : status = .idle ∧ Phase.ready status = q := by simpa [Phase.next] using hq
      obtain ⟨rfl, rfl⟩ := hs
      refine Ensures.bind (Q := fun _ => Admitted terms) (Ensures.modify ?_)
        fun _ => Ensures.pure fun c h => h
      exact fun c hc => (hc.keyed _).admitted
  | _ => cases hq

theorem greetings_read (mayAsk : Bool) :
    Ensures (Awaits terms s .ready (.greeting mayAsk)) (converse greetingTurn throw none)
      (Greeted terms mayAsk) (Rejected terms options) :=
  converse_awaits (K := fun _ p => p = .greeting mayAsk)
    (by rintro _ _ rfl; exact trivial)
    (by rintro key _ m q rfl hq ha; exact greetingTurn_comes ha hq)
    (fun e => Ensures.throw fun _ h => .lost h) rfl

/-- A client that gave its password is let in or turned away. -/
theorem authenticate_second (times : Nat) :
    Ensures (Awaits terms s .ready (.greeting false)) (authenticate options.password (times + 1))
      (fun _ => Admitted terms) (Rejected terms options) := by
  unfold authenticate
  refine (greetings_read false).bind fun greeting => ?_
  cases greeting with
  | begin => exact Ensures.pure fun _ h => h
  | givePassword => exact Ensures.of_each fun c hc => by cases hc.1

/-- One message that the session waits for is answered, or the client is not let in. -/
theorem greet_awaits {m : FrontendMessage} (mayAsk : Bool) (hover : ¬s.Over)
    (hm : m = .startup Protocol.version3 options.startupParams ∨
      ∃ text, options.password = some text ∧ m = .password text)
    (hserved : ∀ bytes, m.encode = .ok bytes → Served (.greeting mayAsk) s (s.serve bytes)) :
    Ensures (Hears terms s .ready []) (send [m])
      (fun _ c => ∃ s, Awaits terms s .ready (.greeting mayAsk) c) (Rejected terms options) := by
  refine (send_awaits (P := fun _ => True) (p := .greeting mayAsk) hover ?_).mono
    (fun c h => ⟨h, trivial⟩) ?_ ?_
  · intro bytes he
    rw [FrontendMessage.encodeAll_singleton] at he
    exact hserved bytes he
  · intro _ c hc
    obtain ⟨bytes, -, h⟩ := hc
    exact ⟨_, h.awaits⟩
  · intro e c hc
    rcases hc with ⟨w, he, rfl, -⟩ | h
    · rw [FrontendMessage.encodeAll_singleton] at he
      exact .unsendable hm he
    · exact .lost h

theorem not_over_of_password {user : String} {applicationName : Option String}
    (h : s.stage = .password user applicationName) : ¬s.Over := by
  intro h
  obtain ⟨e, he⟩ := h
  rw [h] at he
  cases he

theorem not_over_of_startup (h : s.stage = .startup) : ¬s.Over := by
  intro h
  obtain ⟨e, he⟩ := h
  rw [h] at he
  cases he

/-- A client that was not asked yet is let in, turned away or asked for a password, which it
gives if it has one. -/
theorem authenticate_first (times : Nat) :
    Ensures (Awaits terms s .ready (.greeting true)) (authenticate options.password (times + 2))
      (fun _ => Admitted terms) (Rejected terms options) := by
  unfold authenticate
  refine (greetings_read true).bind fun greeting => ?_
  cases greeting with
  | begin => exact Ensures.pure fun _ h => h
  | givePassword =>
      cases hp : options.password with
      | none => exact Ensures.throw fun c _ => .passwordMissing hp
      | some text =>
          refine Ensures.of_each ?_
          intro c hc
          obtain ⟨-, s, user, applicationName, hc, ha, hs⟩ := hc
          refine Ensures.bind (Ensures.of_eq hc (greet_awaits false
            (not_over_of_password hs) (.inr ⟨text, hp, rfl⟩)
            fun bytes he => password_served ha hs he)) fun _ => ?_
          refine Ensures.of_each ?_
          intro c hc
          obtain ⟨s, hc⟩ := hc
          rw [← hp]
          exact Ensures.of_eq hc (authenticate_second times)

/-- Nothing at hand cannot make an answer. -/
theorem authenticate_nothing {P : Connection σ → Prop} {E : ClientError → Connection σ → Prop}
    {Q : Greeting → Connection σ → Prop} (password : Option String)
    (h : Ensures P (converse greetingTurn throw none) Q E)
    (hnone : ∀ c, P c → c.backlog = 0) {R : Unit → Connection σ → Prop} :
    Ensures P (authenticate password 1) R E := by
  constructor
  intro c hc
  have hg := h.run c hc
  unfold authenticate
  rw [bind_apply]
  have herror : ∃ e c', converse greetingTurn throw none c = (.error e, c') := by
    rw [converse]
    split
    · next e c' hr => exact ⟨e, c', rfl⟩
    · next m c' hr =>
        have := receive_backlog hr
        rw [hnone c hc] at this
        cases this
  obtain ⟨e, c', he⟩ := herror
  rw [he] at hg ⊢
  exact hg

theorem greet_admitted (hs : s.Alone) (hstage : s.stage = .startup) :
    Ensures (Hears terms s .ready []) (greet options) (fun _ => Admitted terms)
      (Rejected terms options) := by
  unfold greet
  refine Ensures.bind (greet_awaits true (not_over_of_startup hstage) (.inl rfl)
    fun bytes he => startup_served hs hstage he) fun _ => ?_
  refine Ensures.get_bind ?_
  intro c hc
  obtain ⟨s, hc⟩ := hc
  cases hb : c.backlog with
  | zero =>
      refine authenticate_nothing options.password (Ensures.of_eq hc (greetings_read true)) ?_
      intro _ h
      subst h
      exact hb
  | succ n => exact Ensures.of_eq hc (authenticate_first n)

end

/-! ## A new connection -/

section

variable {σ : Type} [Joined σ] {terms : Terms σ} {s : Session} {options : ConnectOptions}

/-- An attempt to connect ends with a connection that is settled, or with one that is closed and
an error that tells why. -/
theorem connect_ends {channel : σ} (hs : s.Alone) (hstage : s.stage = .startup)
    (hloop : Joined.loop channel = Loopback.toSession s)
    (hconnect : terms.limit options.connectTimeout)
    (hstatement : ∀ d, options.statementTimeout = some d → terms.limit d) :
    Ends (fun _ => Calm terms)
      (fun e c => c.status = .closed ∧ ∃ e' c', e = e'.ofHandshake ∧ Rejected terms options e' c')
      (connect options channel) := by
  have start : Hears terms s .ready [] (fresh options channel) := by
    refine ⟨rfl, rfl, ⟨hstatement, dated_none⟩, ?_, ?_, ?_⟩
    · exact congrArg Loopback.session hloop
    · exact .inl (congrArg Loopback.inbound hloop)
    · have ho : (Joined.loop channel).outbound = [] := congrArg Loopback.outbound hloop
      change Spells ([] ++ (Joined.loop channel).outbound) []
      rw [ho]
      exact .nil
  have hlimit : ∀ d, some options.connectTimeout = some d → terms.limit d := by
    intro _ h
    cases h
    exact hconnect
  have greeted : Ensures (Hears terms s .ready []) (greet options) (fun _ => Admitted terms)
      (Rejected terms options) := greet_admitted hs hstage
  have started : Hears terms s .ready [] ((fresh options channel).started
      (some options.connectTimeout)) ∧
      IsIdle ((fresh options channel).started (some options.connectTimeout)) :=
    over_started (P := fun c => Hears terms s .ready [] c ∧ IsIdle c) hlimit
      fun _ _ hloop hd => ⟨start.over hloop hd, rfl⟩
  refine connect_ensures started ((greeted.and (greets_idle.greet (isIdle_send _))).mono
    (fun _ h => h) ?_ fun e c h => ⟨close_closed _, e, c, rfl, h.1⟩)
  intro _ c hc
  obtain ⟨⟨s', hc, hq, hi⟩, hidle⟩ := hc
  have hidle : c.transaction = .idle := hidle
  refine ⟨s', hc.over rfl dated_none, hq, ?_⟩
  dsimp only
  rw [hidle]
  exact agree_idle hq.sound hi

theorem connect_inOrder {channel : σ} (hs : s.Alone) (hstage : s.stage = .startup)
    (hloop : Joined.loop channel = Loopback.toSession s)
    (hconnect : terms.limit options.connectTimeout)
    (hstatement : ∀ d, options.statementTimeout = some d → terms.limit d) :
    InOrder terms (connect options channel).2 := by
  have h := connect_ends hs hstage hloop hconnect hstatement
  exact (h.mono (fun _ _ ⟨_, h⟩ => h.inOrder) fun _ _ h => .inr (.inr h.1)).state

end

end Connection

end SqlWire
