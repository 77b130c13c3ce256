import SqlWire.Proofs.Client.Reading
import SqlWire.Proofs.Joint.Joined

/-!
# Reading what a session said

`Hears s status todo c` says that the connection `c` has yet to read the messages `todo` of the
session `s`. Reading takes the first of them that is no aside, and a reader that knows what to
make of each message in each phase comes to the end of the answer, unless the channel lets it
down.
-/

namespace SqlWire

/-- The time limits that a connection may have, and what is known of a channel that let its
connection down with an error. -/
structure Terms (σ : Type) [Joined σ] where
  limit : Duration → Prop
  lost : ClientError → σ → Prop
  send : ∀ {bytes f} {s s' : σ}, Channel.send bytes s = (some f, s') → lost (.io f.text) s'
  bound : ∀ {d f} {s s' : σ}, Channel.bound d s = (some f, s') → lost (.io f.text) s'
  expired : ∀ {d} {start s : σ}, limit d →
    (Channel.now start).1 + d.nanos ≤ (Channel.now s).1 → lost (.timeout d) (Channel.now s).2
  closed : ∀ {s s' : σ}, ((Joined.loop s).outbound = [] → (Joined.loop s).session.Over) →
    Channel.receive s = (.closed, s') → lost .endOfStream s'
  failed : ∀ {f e} {s s' : σ}, ((Joined.loop s).outbound = [] → (Joined.loop s).session.Over) →
    Channel.receive s = (.failed f, s') → lost e s'

namespace Connection

def peer {σ : Type} [Joined σ] (c : Connection σ) : Session :=
  (Joined.loop c.channel).session

section

variable {σ : Type} [Joined σ] (terms : Terms σ)

def Dated (deadline : Option Deadline) : Prop :=
  ∀ d, deadline = some d → terms.limit d.allowed ∧
    ∃ start : σ, d.instant = (Channel.now start).1 + d.allowed.nanos

structure Limited (c : Connection σ) : Prop where
  statement : ∀ d, c.statementTimeout = some d → terms.limit d
  deadline : Dated terms c.deadline

structure Hears (s : Session) (status : ConnectionStatus) (todo : List BackendMessage)
    (c : Connection σ) : Prop where
  status : c.status = status
  usable : c.isUsable = true
  limited : Limited terms c
  peer : c.peer = s
  inbound : (Joined.loop c.channel).inbound = [] ∨ s.Over
  spells : Spells (c.buffer ++ (Joined.loop c.channel).outbound) todo

structure Lost (e : ClientError) (c : Connection σ) : Prop where
  status : c.status = .broken
  lost : terms.lost e c.channel
  limited : Limited terms c

end

section

variable {σ : Type} [Joined σ] {terms : Terms σ} {s : Session} {status : ConnectionStatus}
  {todo : List BackendMessage} {c : Connection σ}

theorem markBroken_usable (h : c.isUsable = true) : c.markBroken = { c with
    status := .broken
    buffer := []
    transaction := if c.transaction = .active then .failed else c.transaction } :=
  if_pos h

theorem lost_markBroken {e : ClientError} (hu : c.isUsable = true) (hl : Limited terms c)
    (h : terms.lost e c.channel) : Lost terms e c.markBroken := by
  rw [markBroken_usable hu]
  exact ⟨rfl, h, hl.statement, hl.deadline⟩

/-- What the connection hears does not depend on anything else of the channel. -/
theorem Hears.over (h : Hears terms s status todo c) {channel : σ} {deadline : Option Deadline}
    (hloop : Joined.loop channel = Joined.loop c.channel) (hd : Dated terms deadline) :
    Hears terms s status todo { c with channel, deadline } := by
  refine ⟨h.status, h.usable, ⟨h.limited.statement, hd⟩, ?_, ?_, ?_⟩
  · exact (congrArg Loopback.session hloop).trans h.peer
  · rw [hloop]
    exact h.inbound
  · rw [hloop]
    exact h.spells

/-- Nor does it depend on what only the caller sees of the connection. -/
theorem Hears.reset (h : Hears terms s status todo c) {transaction : TransactionState}
    {autocommit : Bool} {statementTimeout : Option Duration} {backendKey : Option BackendKey}
    (hl : ∀ d, statementTimeout = some d → terms.limit d) :
    Hears terms s status todo
      { c with transaction, autocommit, statementTimeout, backendKey } :=
  ⟨h.status, h.usable, ⟨hl, h.limited.deadline⟩, h.peer, h.inbound, h.spells⟩

/-- What is left to be read, if the channel has nothing only because the session is over. -/
def Due (terms : Terms σ) (s : Session) (status : ConnectionStatus) (todo : List BackendMessage)
    (c : Connection σ) : Prop :=
  Hears terms s status todo c ∧ ((Joined.loop c.channel).outbound = [] → s.Over)

/-- A read from the channel brings more of the same messages. -/
theorem takeDelivery_hears (limit : Option Duration) :
    Ensures (Due terms s status todo)
      (takeDelivery limit) (fun _ => Hears terms s status todo) (Lost terms) := by
  constructor
  intro c hc
  obtain ⟨h, ho⟩ := hc
  unfold takeDelivery
  rcases hb : Channel.bound limit c.channel with ⟨_ | f, channel⟩
  · have hloop : Joined.loop channel = Joined.loop c.channel := by
      rw [← Joined.loop_bound limit c.channel, hb]
    have hover : (Joined.loop channel).outbound = [] → (Joined.loop channel).session.Over := by
      rw [hloop]
      intro hnil
      have hp : (Joined.loop c.channel).session = s := h.peer
      rw [hp]
      exact ho hnil
    dsimp only
    rcases hr : Channel.receive channel with ⟨bytes | _ | f, channel'⟩
    · obtain ⟨hsession, hinbound⟩ := Joined.session_chunk hr
      have houtbound := Joined.outbound_chunk hr
      rw [hloop] at hsession hinbound houtbound
      refine ⟨h.status, h.usable, ⟨h.limited.statement, h.limited.deadline⟩,
        hsession.trans h.peer, ?_, ?_⟩
      · change (Joined.loop channel').inbound = [] ∨ _
        rw [hinbound]
        exact h.inbound
      · have hs := h.spells
        rw [houtbound, ← List.append_assoc] at hs
        exact hs
    · exact lost_markBroken h.usable ⟨h.limited.statement, h.limited.deadline⟩
        (terms.closed hover hr)
    · exact lost_markBroken h.usable ⟨h.limited.statement, h.limited.deadline⟩
        (terms.failed hover hr)
  · exact lost_markBroken h.usable ⟨h.limited.statement, h.limited.deadline⟩ (terms.bound hb)

theorem fill_hears :
    Ensures (Due terms s status todo) fill (fun _ => Hears terms s status todo) (Lost terms) := by
  constructor
  intro c hc
  obtain ⟨h, ho⟩ := hc
  unfold fill
  cases hd : c.deadline with
  | none => exact (takeDelivery_hears none).run c ⟨h, ho⟩
  | some d =>
      have hloop := Joined.loop_now c.channel
      obtain ⟨hlimit, start, hstart⟩ := h.limited.deadline d hd
      have hover := h.over hloop h.limited.deadline
      rw [hd] at hover
      dsimp only
      by_cases hle : d.instant ≤ (Channel.now c.channel).1
      · rw [if_pos hle]
        rw [hstart] at hle
        exact lost_markBroken hover.usable hover.limited (terms.expired hlimit hle)
      · rw [if_neg hle]
        refine (takeDelivery_hears _).run _ ⟨hover, ?_⟩
        rw [hloop]
        exact ho

theorem Hears.taken {rest : Bytes} {tail : List BackendMessage} (h : Hears terms s status todo c)
    (parameters : List (String × String))
    (hs : Spells (rest ++ (Joined.loop c.channel).outbound) tail) :
    Hears terms s status tail { c with buffer := rest, parameters } :=
  ⟨h.status, h.usable, ⟨h.limited.statement, h.limited.deadline⟩, h.peer, h.inbound, hs⟩

/-- If no whole message is buffered and nothing waits to be read, nothing is to be heard. -/
theorem Hears.starved (h : Hears terms s status todo c) (hn : Frame.next c.buffer = .ok none)
    (ho : (Joined.loop c.channel).outbound = []) : todo = [] := by
  have hs := h.spells
  rw [ho, List.append_nil] at hs
  generalize c.buffer = buffer at hs hn
  cases hs with
  | nil => rfl
  | cons taken =>
      rw [taken] at hn
      cases hn

def Received (todo : List BackendMessage) (m : BackendMessage) (rest : List BackendMessage) :
    Prop :=
  ∃ asides, todo = asides ++ m :: rest ∧ (∀ a ∈ asides, a.isAside = true) ∧ m.isAside = false

theorem Received.plain {m : BackendMessage} {rest : List BackendMessage}
    (h : Received todo m rest) : m.isAside = false := by
  obtain ⟨_, -, -, hm⟩ := h
  exact hm

theorem Received.aside {m a : BackendMessage} {rest : List BackendMessage}
    (h : Received todo m rest) (ha : a.isAside = true) : Received (a :: todo) m rest := by
  obtain ⟨asides, rfl, hall, hm⟩ := h
  exact ⟨a :: asides, rfl, List.forall_mem_cons.2 ⟨ha, hall⟩, hm⟩

/-- The first message that is no aside is received, unless the channel lets the connection
down. A session that is not over has such a message to give. -/
theorem receive_hears (hs : (∀ m ∈ todo, m.isAside = true) → s.Over) :
    Ensures (Hears terms s status todo) receive
      (fun m c => ∃ rest, Received todo m rest ∧ Hears terms s status rest c) (Lost terms) := by
  constructor
  intro c h
  have starving {c : Connection σ} {todo : List BackendMessage} (h : Hears terms s status todo c)
      (hs : (∀ m ∈ todo, m.isAside = true) → s.Over) (hn : Frame.next c.buffer = .ok none) :
      Due terms s status todo c := by
    refine ⟨h, fun ho => hs ?_⟩
    rw [h.starved hn ho]
    intro m hm
    cases hm
  have fewer {a : BackendMessage} {tail : List BackendMessage} (ha : a.isAside = true)
      (hs : (∀ m ∈ a :: tail, m.isAside = true) → s.Over) :
      (∀ m ∈ tail, m.isAside = true) → s.Over := by
    intro hall
    exact hs (List.forall_mem_cons.2 ⟨ha, hall⟩)
  -- the induction is on the bytes at hand; asides are taken off `todo` on the way
  fun_induction receive c generalizing todo with
  | case1 c e hn => exact absurd hn (h.spells.front_ne_error e)
  | case2 c hn e c' hf => exact fill_hears.error (starving h hs hn) hf
  | case3 c hn c' hf ih => exact ih hs (fill_hears.ok (starving h hs hn) hf)
  | case4 c frame rest hn e hd =>
      obtain ⟨m, tail, rfl, hm, -⟩ := h.spells.of_front hn
      rw [hd] at hm
      cases hm
  | case5 c frame rest hn name value hd ih =>
      obtain ⟨m, tail, rfl, hm, ht⟩ := h.spells.of_front hn
      rw [hd] at hm
      cases hm
      refine (ih (fewer rfl hs) (h.taken _ ht)).mono ?_ fun _ _ h => h
      intro m c' hc
      obtain ⟨rest, hm, hc⟩ := hc
      exact ⟨rest, hm.aside rfl, hc⟩
  | case6 c frame rest hn report hd ih =>
      obtain ⟨m, tail, rfl, hm, ht⟩ := h.spells.of_front hn
      rw [hd] at hm
      cases hm
      refine (ih (fewer rfl hs) (h.taken c.parameters ht)).mono ?_ fun _ _ h => h
      intro m c' hc
      obtain ⟨rest, hm, hc⟩ := hc
      exact ⟨rest, hm.aside rfl, hc⟩
  | case7 c frame rest hn m hp hr hd =>
      obtain ⟨m', tail, rfl, hm, ht⟩ := h.spells.of_front hn
      rw [hd] at hm
      cases hm
      refine ⟨tail, ⟨[], rfl, by simp, ?_⟩, h.taken c.parameters ht⟩
      cases m with
      | parameterStatus name value => exact absurd rfl (hp name value)
      | noticeResponse report => exact absurd rfl (hr report)
      | _ => rfl

section

variable {α β : Type} {react : α → BackendMessage → Turn σ α β}
  {onFailure : ClientError → Action σ β} {Q : β → Connection σ → Prop}
  {E : ClientError → Connection σ → Prop}

/-- A reader whose state fits what is left to be heard comes to its end. -/
theorem converse_hears {I : α → List BackendMessage → Prop}
    (hover : ∀ a todo, I a todo → (∀ m ∈ todo, m.isAside = true) → s.Over)
    (hturn : ∀ a todo m rest, I a todo → Received todo m rest →
      (react a m).Comes (I · rest) fun action => Ensures (Hears terms s status rest) action Q E)
    (hfail : ∀ e, Ensures (Lost terms e) (onFailure e) Q E) {a : α} (ha : I a todo) :
    Ensures (Hears terms s status todo) (converse react onFailure a) Q E := by
  constructor
  intro c h
  -- the induction is on the bytes at hand, and `I` goes on with what is left of `todo`
  fun_induction converse react onFailure a c generalizing todo with
  | case1 a c e c' hr => exact (hfail e).run c' ((receive_hears (hover a todo ha)).error h hr)
  | case2 a c m c' hr next hn ih =>
      obtain ⟨rest, hm, hc⟩ := (receive_hears (hover a todo ha)).ok h hr
      have ht := hturn a todo m rest ha hm
      rw [hn] at ht
      exact ih ht hc
  | case3 a c m c' hr action hn =>
      obtain ⟨rest, hm, hc⟩ := (receive_hears (hover a todo ha)).ok h hr
      have ht := hturn a todo m rest ha hm
      rw [hn] at ht
      exact Ensures.run ht c' hc

end

def Awaits (terms : Terms σ) (s : Session) (status : ConnectionStatus) (p : Phase)
    (c : Connection σ) : Prop :=
  ∃ todo q, Hears terms s status todo c ∧ p.after todo = some q ∧ Session.Closing q s

theorem Awaits.over {p : Phase} (h : Awaits terms s status p c) {channel : σ}
    {deadline : Option Deadline} (hloop : Joined.loop channel = Joined.loop c.channel)
    (hd : Dated terms deadline) : Awaits terms s status p { c with channel, deadline } := by
  obtain ⟨todo, q, h, hq⟩ := h
  exact ⟨todo, q, h.over hloop hd, hq⟩

theorem after_asides {p q : Phase} (hall : ∀ m ∈ todo, m.isAside = true)
    (h : p.after todo = some q) : q = p := by
  induction todo with
  | nil =>
      cases h
      rfl
  | cons m todo ih =>
      rw [Phase.after_cons] at h
      obtain ⟨r, hr, h⟩ := Option.bind_eq_some_iff.1 h
      rw [Phase.next_aside (hall m (by simp)) hr] at h
      exact ih (fun b hb => hall b (by simp [hb])) h

theorem Received.after {p q : Phase} {m : BackendMessage} {rest : List BackendMessage}
    (hm : Received todo m rest) (h : p.after todo = some q) :
    ∃ r, p.next m = some r ∧ r.after rest = some q := by
  obtain ⟨asides, rfl, hall, -⟩ := hm
  rw [Phase.after_append] at h
  obtain ⟨p', hp, h⟩ := Option.bind_eq_some_iff.1 h
  rw [after_asides hall hp, Phase.after_cons] at h
  exact Option.bind_eq_some_iff.1 h

theorem closing_open {p : Phase} (h : Session.Closing p s) (hp : p.Open) : s.Over := by
  cases h with
  | quiet => cases hp
  | ended ho => exact ho
  | asked => cases hp

section

variable {α β : Type} {react : α → BackendMessage → Turn σ α β}
  {onFailure : ClientError → Action σ β} {Q : β → Connection σ → Prop}
  {E : ClientError → Connection σ → Prop}

/-- A reader that knows what to make of each message, from the phase of the answer and from what
is left of it, comes to its end. -/
theorem converse_phases {r : Phase} (hclosing : Session.Closing r s)
    {K : α → Phase → List BackendMessage → Prop} (hopen : ∀ a p todo, K a p todo → p.Open)
    (hturn : ∀ a p todo m q rest, K a p todo → Received todo m rest → p.next m = some q →
      q.after rest = some r →
      (react a m).Comes (K · q rest) fun action => Ensures (Hears terms s status rest) action Q E)
    (hfail : ∀ e, Ensures (Lost terms e) (onFailure e) Q E) {a : α} {p : Phase}
    (ha : K a p todo) (hr : p.after todo = some r) :
    Ensures (Hears terms s status todo) (converse react onFailure a) Q E := by
  refine converse_hears (I := fun a todo => ∃ p, K a p todo ∧ p.after todo = some r) ?_ ?_ hfail
    ⟨p, ha, hr⟩
  · intro a todo h hall
    obtain ⟨p, hp, hr⟩ := h
    rw [after_asides hall hr] at hclosing
    exact closing_open hclosing (hopen a p todo hp)
  · intro a todo m rest h hm
    obtain ⟨p, hp, hr⟩ := h
    obtain ⟨q, hq, hrest⟩ := hm.after hr
    exact (hturn a p todo m q rest hp hm hq hrest).mono (fun _ h => ⟨q, h, hrest⟩) fun _ h => h

/-- A reader that knows what to make of each message in each phase comes to its end. -/
theorem converse_awaits {K : α → Phase → Prop} (hopen : ∀ a p, K a p → p.Open)
    (hturn : ∀ a p m q, K a p → p.next m = some q → m.isAside = false →
      (react a m).Comes (K · q) fun action => Ensures (Awaits terms s status q) action Q E)
    (hfail : ∀ e, Ensures (Lost terms e) (onFailure e) Q E) {a : α} {p : Phase} (ha : K a p) :
    Ensures (Awaits terms s status p) (converse react onFailure a) Q E := by
  refine Ensures.of_each fun c hc => ?_
  obtain ⟨todo, r, hc, hr, hclosing⟩ := hc
  refine Ensures.of_eq hc (converse_phases hclosing (K := fun a p _ => K a p)
    (fun a p _ => hopen a p) ?_ hfail ha hr)
  intro a p todo m q rest hp hm hq hrest
  refine (hturn a p m q hp hq hm.plain).mono (fun _ h => h) fun action h => ?_
  exact h.mono (fun c hc => ⟨rest, r, hc, hrest, hclosing⟩) (fun _ _ h => h) fun _ _ h => h

end

end

end Connection

end SqlWire
