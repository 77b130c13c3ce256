import SqlWire.Client.Script
import SqlWire.Proofs.Client.Readers

/-!
# What passes between a connection and its server

`Exchanges` follows a connection from call to call of `send` and `receive`, and keeps what was sent
and read on the way. The exchanges are `InStep` if every request was sent when all the answers
before it had been read, and every message was read when one answer was due.
-/

namespace SqlWire

/-- What passes between a connection and its server. -/
inductive Exchange where
  | asked (messages : List FrontendMessage)
  | heard (m : BackendMessage)

namespace Exchange

def isRequest : Exchange → Bool
  | asked messages => messages ≠ [.terminate]
  | heard _ => false

def heard? : Exchange → Option BackendMessage
  | asked _ => none
  | heard m => some m

end Exchange

def requests (history : List Exchange) : Nat :=
  history.countP Exchange.isRequest

def heardIn (history : List Exchange) : List BackendMessage :=
  history.filterMap Exchange.heard?

def answered (history : List Exchange) : Nat :=
  (heardIn history).countP BackendMessage.isReady

section

variable (history : List Exchange) (messages : List FrontendMessage) (m : BackendMessage)

@[simp] theorem requests_asked : requests (history ++ [.asked messages]) =
    requests history + if messages = [.terminate] then 0 else 1 := by
  by_cases hm : messages = [.terminate]
  · simp [requests, Exchange.isRequest, hm]
  · simp [requests, Exchange.isRequest, hm]

@[simp] theorem requests_heard : requests (history ++ [.heard m]) = requests history := by
  simp [requests, Exchange.isRequest]

theorem heardIn_append (history more : List Exchange) :
    heardIn (history ++ more) = heardIn history ++ heardIn more :=
  List.filterMap_append

@[simp] theorem answered_asked : answered (history ++ [.asked messages]) = answered history := by
  rw [answered, heardIn_append, List.countP_append]
  rfl

@[simp] theorem answered_heard : answered (history ++ [.heard m]) =
    answered history + if m.isReady then 1 else 0 := by
  rw [answered, heardIn_append, List.countP_append]
  exact congrArg _ List.countP_singleton

end

/-- A request is due when every earlier one was answered, a message when exactly one was not. -/
def Exchange.Due (history : List Exchange) : Exchange → Prop
  | asked messages => messages ≠ [.terminate] → answered history = requests history
  | heard _ => requests history = answered history + 1

/-- Everything was due when it passed. -/
inductive InStep : List Exchange → Prop
  | nil : InStep []
  | snoc {history : List Exchange} {e : Exchange} (h : InStep history) (hd : e.Due history) :
      InStep (history ++ [e])

section

variable {history before after : List Exchange} {m : BackendMessage}

theorem InStep.due {e : Exchange} (h : InStep history) (he : history = before ++ e :: after) :
    e.Due before := by
  induction h generalizing after with
  | nil => simp at he
  | @snoc history last h hd ih =>
      rcases List.eq_nil_or_concat after with rfl | ⟨after, last', rfl⟩
      · obtain ⟨rfl, hlast⟩ := List.append_inj' he rfl
        cases hlast
        exact hd
      · rw [List.concat_eq_append, ← List.cons_append, ← List.append_assoc] at he
        exact ih (List.append_inj_left' he rfl)

/-- A whole answer: its last message, and no other, says that the server is ready. -/
def IsAnswer (ms : List BackendMessage) : Prop :=
  ∃ body reported, ms = body ++ [.readyForQuery reported] ∧ ∀ m ∈ body, m.isReady = false

theorem IsAnswer.countP {ms : List BackendMessage} (h : IsAnswer ms) :
    ms.countP BackendMessage.isReady = 1 := by
  obtain ⟨body, reported, rfl, hbody⟩ := h
  rw [List.countP_append, List.countP_eq_zero.2 (by simpa using hbody)]
  rfl

/-- As many answers as were read to their end come before a message; it is part of the next. -/
theorem answer_of_prefix {answers : List (List BackendMessage)} (ha : ∀ a ∈ answers, IsAnswer a)
    {ms : List BackendMessage} (hp : ms ++ [m] <+: answers.flatten) :
    ∃ part rest, answers[ms.countP BackendMessage.isReady]? = some (part ++ m :: rest) ∧
      ms = (answers.take (ms.countP BackendMessage.isReady)).flatten ++ part := by
  induction answers generalizing ms with
  | nil => simp at hp
  | cons a answers ih =>
      have hms : ms <+: a ++ answers.flatten := (List.prefix_append ms [m]).trans hp
      by_cases hl : ms.length < a.length
      · obtain ⟨body, reported, hbody, hquiet⟩ := ha a List.mem_cons_self
        have hm : ms ++ [m] <+: a :=
          List.prefix_of_prefix_length_le hp (List.prefix_append _ _) (by simp; omega)
        have hb : ms <+: body := by
          refine List.prefix_of_prefix_length_le ((List.prefix_append ms [m]).trans hm) ?_ ?_
          · rw [hbody]
            exact List.prefix_append _ _
          · have : a.length = body.length + 1 := by simp [hbody]
            omega
        have hc : ms.countP BackendMessage.isReady = 0 :=
          List.countP_eq_zero.2 fun x hx => by simp [hquiet x (hb.subset hx)]
        obtain ⟨rest, hrest⟩ := hm
        rw [hc]
        exact ⟨ms, rest, by simp [← hrest], rfl⟩
      · have hfirst : a <+: ms :=
          List.prefix_of_prefix_length_le (List.prefix_append _ _) hms (by omega)
        obtain ⟨ms, rfl⟩ := hfirst
        have hp : ms ++ [m] <+: answers.flatten := by
          rw [List.append_assoc] at hp
          exact (List.prefix_append_right_inj a).1 hp
        obtain ⟨part, rest, hget, htake⟩ := ih (fun b hb => ha b (List.mem_cons_of_mem _ hb)) hp
        have hc := (ha a List.mem_cons_self).countP
        refine ⟨part, rest, ?_, ?_⟩
        · rw [List.countP_append, hc, Nat.add_comm, List.getElem?_cons_succ]
          exact hget
        · rw [List.countP_append, hc, Nat.add_comm, List.take_succ_cons, List.flatten_cons,
            List.append_assoc, ← htake]

/-- Every message that was read is part of the answer to the request before it. -/
def Attributed (answers : List (List BackendMessage)) (history : List Exchange) : Prop :=
  ∀ before m after, history = before ++ .heard m :: after →
    ∃ n part rest, requests before = n + 1 ∧ answers[n]? = some (part ++ m :: rest) ∧
      heardIn before = (answers.take n).flatten ++ part

/-- If the server gives one answer to each request, none is taken for that to another. -/
theorem InStep.attributed (h : InStep history) {answers : List (List BackendMessage)}
    (ha : ∀ a ∈ answers, IsAnswer a) (hp : heardIn history <+: answers.flatten) :
    Attributed answers history := by
  intro before m after he
  have due : requests before = answered before + 1 := h.due he
  have hp : heardIn before ++ [m] <+: answers.flatten := by
    refine List.IsPrefix.trans ?_ hp
    rw [he, heardIn_append]
    exact ⟨heardIn after, by simp [heardIn, Exchange.heard?]⟩
  obtain ⟨part, rest, hget, htake⟩ := answer_of_prefix ha hp
  exact ⟨answered before, part, rest, due, hget, htake⟩

end

namespace Connection

variable {σ : Type} [Channel σ]

/-- The connection came from one state to the other by calls of `send` and `receive`, of which
those that succeeded are listed. In between it read the clock, gave the connection up, closed the
channel or changed what has no part in channel or buffer. -/
inductive Exchanges (c : Connection σ) : List Exchange → Connection σ → Prop
  | refl : Exchanges c [] c
  | asked {history : List Exchange} {d d' : Connection σ} (h : Exchanges c history d)
      {messages : List FrontendMessage} (hs : send messages d = (.ok (), d')) :
      Exchanges c (history ++ [.asked messages]) d'
  | heard {history : List Exchange} {d d' : Connection σ} (h : Exchanges c history d)
      {m : BackendMessage} (hr : receive d = (.ok m, d')) :
      Exchanges c (history ++ [.heard m]) d'
  | unsent {history : List Exchange} {d d' : Connection σ} (h : Exchanges c history d)
      {messages : List FrontendMessage} {e : ClientError}
      (hs : send messages d = (.error e, d')) : Exchanges c history d'
  | unheard {history : List Exchange} {d d' : Connection σ} (h : Exchanges c history d)
      {e : ClientError} (hr : receive d = (.error e, d')) : Exchanges c history d'
  | clock {history : List Exchange} {d : Connection σ} (h : Exchanges c history d) :
      Exchanges c history { d with channel := (Channel.now d.channel).2 }
  | dropped {history : List Exchange} {d : Connection σ} (h : Exchanges c history d) :
      Exchanges c history d.markBroken
  | shut {history : List Exchange} {d : Connection σ} (h : Exchanges c history d) :
      Exchanges c history d.shut
  | within {history : List Exchange} {d d' : Connection σ} (h : Exchanges c history d)
      (hc : d'.channel = d.channel) (hb : d'.buffer = d.buffer) : Exchanges c history d'

def Behind (c : Connection σ) (n : Nat) (d : Connection σ) : Prop :=
  ∃ history, Exchanges c history d ∧ InStep history ∧ requests history = answered history + n

def Waiting (c : Connection σ) (status : ConnectionStatus) (d : Connection σ) : Prop :=
  d.status = status ∧ Behind c 1 d

def Even (c d : Connection σ) : Prop :=
  d.status = .ready ∧ Behind c 0 d

def Spent (c d : Connection σ) : Prop :=
  d.isUsable = false ∧ ∃ n, Behind c n d

/-- Between two operations a ready connection has no request unanswered, and one with a result
exactly one. -/
inductive InTurn (c d : Connection σ) : Prop
  | ready (h : Even c d)
  | streaming {id : Nat} {columns : List Column} (h : Waiting c (.streaming id columns) d)
  | lost (h : Spent c d)

section

variable {c d d' : Connection σ} {n : Nat} {status : ConnectionStatus}

theorem Behind.within (h : Behind c n d) (hc : d'.channel = d.channel)
    (hb : d'.buffer = d.buffer) : Behind c n d' := by
  obtain ⟨history, path, hs, hn⟩ := h
  exact ⟨history, path.within hc hb, hs, hn⟩

theorem Behind.aside (h : Behind c n d) (ha : Aside d d') : Behind c n d' := by
  rcases ha.channel with hc | hc
  · exact h.within hc ha.buffer
  · obtain ⟨history, path, hs, hn⟩ := h
    exact ⟨history, path.clock.within hc ha.buffer, hs, hn⟩

theorem Behind.dropped (h : Behind c n d) : Spent c d.markBroken := by
  obtain ⟨history, path, hs, hn⟩ := h
  exact ⟨markBroken_unusable d, n, history, path.dropped, hs, hn⟩

theorem Spent.within (h : Spent c d) (hc : d'.channel = d.channel) (hb : d'.buffer = d.buffer)
    (hs : d'.status = d.status) : Spent c d' := by
  obtain ⟨hu, n, h⟩ := h
  exact ⟨(isUsable_of_status hs).trans hu, n, h.within hc hb⟩

theorem Even.aside (h : Even c d) (ha : Aside d d') : Even c d' :=
  ⟨ha.status.trans h.1, h.2.aside ha⟩

theorem InTurn.within (h : InTurn c d) (hc : d'.channel = d.channel) (hb : d'.buffer = d.buffer)
    (hs : d'.status = d.status) : InTurn c d' := by
  cases h with
  | ready h => exact .ready ⟨hs.trans h.1, h.2.within hc hb⟩
  | streaming h => exact .streaming ⟨hs.trans h.1, h.2.within hc hb⟩
  | lost h => exact .lost (h.within hc hb hs)

theorem InTurn.aside (h : InTurn c d) (ha : Aside d d') : InTurn c d' := by
  cases h with
  | ready h => exact .ready (h.aside ha)
  | streaming h => exact .streaming ⟨ha.status.trans h.1, h.2.aside ha⟩
  | lost h =>
      obtain ⟨hu, n, h⟩ := h
      exact .lost ⟨(isUsable_of_status ha.status).trans hu, n, h.aside ha⟩

theorem InTurn.even (h : InTurn c d) (hs : d.status = .ready) : Even c d := by
  cases h with
  | ready h => exact h
  | streaming h =>
      have hs' := h.1
      rw [hs] at hs'
      cases hs'
  | lost h =>
      have hu := h.1
      simp [isUsable, hs] at hu

theorem InTurn.waiting (h : InTurn c d) {id : Nat} {columns : List Column}
    (hs : d.status = .streaming id columns) : Waiting c (.streaming id columns) d := by
  cases h with
  | ready h =>
      have hs' := h.1
      rw [hs] at hs'
      cases hs'
  | streaming h => exact ⟨hs, h.2⟩
  | lost h =>
      have hu := h.1
      simp [isUsable, hs] at hu

theorem InTurn.behind (h : InTurn c d) : ∃ n, Behind c n d := by
  cases h with
  | ready h => exact ⟨0, h.2⟩
  | streaming h => exact ⟨1, h.2⟩
  | lost h => exact h.2

/-! ## Calls -/

/-- A request that was sent leaves the status alone; if the channel fails, the connection is given
up. -/
theorem send_status (messages : List FrontendMessage) (d : Connection σ) :
    Ensures (· = d) (send messages) (fun _ d' => d'.status = d.status)
      (fun _ d' => d' = d ∨ d'.isUsable = false) := by
  constructor
  intro d hd
  subst hd
  unfold send
  cases FrontendMessage.encodeAll messages with
  | error e => exact .inl rfl
  | ok bytes =>
      dsimp only
      rcases Channel.send bytes d.channel with ⟨_ | f, channel⟩
      · rfl
      · exact .inr (markBroken_unusable _)

theorem send_waits {messages : List FrontendMessage} (hm : messages ≠ [.terminate]) :
    Ensures (Even c) (send messages) (fun _ => Waiting c .ready) (fun _ => InTurn c) := by
  constructor
  intro d hd
  obtain ⟨hs, history, path, hi, hn⟩ := hd
  have status := (send_status messages d).run d rfl
  rcases he : send messages d with ⟨e | u, d'⟩
  · rw [he] at status
    rcases status with rfl | hu
    · exact .ready ⟨hs, history, path, hi, hn⟩
    · exact .lost ⟨hu, 0, history, path.unsent he, hi, hn⟩
  · rw [he] at status
    refine ⟨Eq.trans status hs, _, path.asked he, hi.snoc fun _ => hn.symm, ?_⟩
    simpa [hm] using hn

theorem receive_turns :
    Ensures (Waiting c status) receive
      (fun m d => if m.isReady then d.status = status ∧ Behind c 0 d else Waiting c status d)
      (fun _ => Spent c) := by
  constructor
  intro d hd
  obtain ⟨hs, history, path, hi, hn⟩ := hd
  have reads := (receive_reads d).run d rfl
  rcases he : receive d with ⟨e | m, d'⟩
  · rw [he] at reads
    obtain ⟨d'', -, -, rfl⟩ := reads
    exact ⟨markBroken_unusable _, 1, history, path.unheard he, hi, hn⟩
  · rw [he] at reads
    obtain ⟨ms, -, reads⟩ := reads
    have path := path.heard he
    have hi : InStep (history ++ [.heard m]) := hi.snoc hn
    have hs : d'.status = status := reads.frame.status.trans hs
    change if m.isReady then _ else _
    split
    · next hm => exact ⟨hs, _, path, hi, by simp [hn, hm]⟩
    · next hm => exact ⟨hs, _, path, hi, by simp [hn, hm]⟩

end

end Connection

/-! ## What a scripted channel recorded -/

def Script.sent (s : Script) : List Bytes :=
  s.events.reverse.filterMap fun
    | .sent bytes => some bytes
    | _ => none

@[simp] theorem Script.sent_note_sent (s : Script) (bytes : Bytes) :
    (s.note (.sent bytes)).sent = s.sent ++ [bytes] := by
  simp [Script.sent, Script.note]

@[simp] theorem Script.sent_note_received (s : Script) (limit : Option Duration) :
    (s.note (.received limit)).sent = s.sent := by
  simp [Script.sent, Script.note]

@[simp] theorem Script.sent_note_closed (s : Script) : (s.note .closed).sent = s.sent := by
  simp [Script.sent, Script.note]

def Exchange.bytes? : Exchange → Option Bytes
  | asked messages => (FrontendMessage.encodeAll messages).toOption
  | heard _ => none

theorem Script.sent_delivers {s s' : Script} {w : Bytes} (h : Channel.Delivers s w s') :
    s'.sent = s.sent := by
  have received (s : Script) : (Script.receive s).2.sent = s.sent := by
    unfold Script.receive
    dsimp only
    split
    · exact s.sent_note_received s.limit
    · exact s.sent_note_received s.limit
  induction h with
  | refl => rfl
  | @bound w s' limit h ih =>
      refine Eq.trans ?_ ih
      change (Script.bound limit s').2.sent = s'.sent
      unfold Script.bound
      dsimp only
      split <;> rfl
  | @now w s' h ih =>
      refine Eq.trans ?_ ih
      change s'.now.2.sent = s'.sent
      unfold Script.now
      split <;> rfl
  | chunk _ _ ih => exact (received _).trans ih
  | ended _ _ ih => exact (received _).trans ih

namespace Connection

variable {c d : Connection Script}

theorem send_sends (messages : List FrontendMessage) (d : Connection Script) :
    Ensures (· = d) (send messages)
      (fun _ d' => d'.channel.sent = d.channel.sent ++
        (FrontendMessage.encodeAll messages).toOption.toList)
      (fun _ d' => d'.channel.sent = d.channel.sent) := by
  constructor
  intro d hd
  subst hd
  unfold send
  cases FrontendMessage.encodeAll messages with
  | error e => rfl
  | ok bytes =>
      dsimp only
      rcases hs : Channel.send bytes d.channel with ⟨_ | f, channel⟩
      · change Script.send bytes d.channel = _ at hs
        unfold Script.send at hs
        dsimp only at hs
        split at hs
        · cases hs
        · cases hs
          exact Script.sent_note_sent _ bytes
      · change Script.send bytes d.channel = _ at hs
        unfold Script.send at hs
        dsimp only at hs
        split at hs
        · cases hs
          exact (congrArg Script.sent (markBroken_channel _)).trans rfl
        · cases hs

theorem receive_sends (d : Connection Script) :
    Ensures (· = d) receive (fun _ d' => d'.channel.sent = d.channel.sent)
      (fun _ d' => d'.channel.sent = d.channel.sent) := by
  refine (receive_reads d).mono (fun _ h => h) ?_ ?_
  · intro m d' h
    obtain ⟨ms, -, -, w, read, path, -⟩ := h
    exact Script.sent_delivers path
  · intro e d' h
    obtain ⟨d'', -, ⟨w, path⟩, rfl⟩ := h
    exact (congrArg Script.sent (markBroken_channel d'')).trans (Script.sent_delivers path)

/-- The requests that are listed are those that the channel sent. -/
theorem Exchanges.sent {history : List Exchange} (h : Exchanges c history d) :
    d.channel.sent = c.channel.sent ++ history.filterMap Exchange.bytes? := by
  induction h with
  | refl => exact (List.append_nil _).symm
  | @asked history d d' h messages hs ih =>
      have sends : d'.channel.sent = _ := (send_sends messages d).ok rfl hs
      rw [sends, ih, List.filterMap_append, List.append_assoc]
      cases he : FrontendMessage.encodeAll messages <;> simp [Exchange.bytes?, he, Except.toOption]
  | @heard history d d' h m hr ih =>
      have same : d'.channel.sent = _ := (receive_sends d).ok rfl hr
      rw [same, ih, List.filterMap_append]
      simp [Exchange.bytes?]
  | unsent h hs ih => exact ((send_sends _ _).error rfl hs).trans ih
  | unheard h hr ih => exact ((receive_sends _).error rfl hr).trans ih
  | @clock history d h ih => exact (Script.sent_delivers (.now .refl)).trans ih
  | dropped h ih => exact (congrArg Script.sent (markBroken_channel _)).trans ih
  | @shut history d h ih => exact d.channel.sent_note_closed.trans ih
  | within h hc hb ih => exact (congrArg Script.sent hc).trans ih

end Connection

end SqlWire
