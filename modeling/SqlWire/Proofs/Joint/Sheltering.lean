import SqlWire.Proofs.Client.Readers
import SqlWire.Proofs.Joint.Requests
import SqlWire.Proofs.Server.Shielding

/-!
# Connections that prepare nothing outside a transaction

A session that a client is connected to prepares nothing outside a transaction unless the client
has it run a statement: neither what the connection sends of its own accord nor the end of the
connection does.
-/

namespace SqlWire

open Session

namespace Loopback

variable {free : String → Prop} {base : Session} {l l' : Loopback}

/-- The session has heard from its client, what it is sent next it reads from the front, and
outside a transaction it prepared only what is free to be. -/
structure Sheltered (free : String → Prop) (base : Session) (l : Loopback) : Prop where
  shielded : Shielded free base l.session
  inbound : l.inbound = [] ∨ l.session.Over

/-- Reading leaves the session alone. -/
theorem Sheltered.delivered (h : Sheltered free base l) {w : Bytes}
    (hd : Channel.Delivers l w l') : Sheltered free base l' := by
  have received {l : Loopback} (h : Sheltered free base l) : Sheltered free base l.receive.2 := by
    unfold receive
    split
    · exact h
    · exact ⟨h.shielded, h.inbound⟩
  induction hd with
  | refl => exact h
  | bound _ _ ih => exact ih
  | now _ ih => exact ih
  | chunk _ _ ih => exact received ih
  | ended _ _ ih => exact received ih

/-- What the session takes in of what it is sent. -/
theorem Sheltered.send (h : Sheltered free base l) (bytes : Bytes)
    (hs : Shielded free base (l.session.serve bytes).1 ∧
      ((l.session.serve bytes).2 = [] ∨ (l.session.serve bytes).1.Over)) :
    Sheltered free base (Loopback.send bytes l).2 := by
  rw [Connection.send_loop]
  rcases h.inbound with hi | ho
  · rw [hi, List.nil_append]
    exact ⟨hs.1, hs.2⟩
  · rw [serve_over ho]
    exact ⟨h.shielded, .inr ho⟩

theorem Sheltered.close (h : Sheltered free base l) : Sheltered free base (Loopback.close l).2 := by
  change Sheltered free base { l with session := l.session.hangUp }
  unfold Session.hangUp
  split
  · exact h
  · exact ⟨h.shielded.finish none, .inr (finish_over none _)⟩

end Loopback

namespace Connection

open Loopback

section

variable {free : String → Prop} {base : Session} {on : Bool} {c : Connection Loopback}

structure Steady (free : String → Prop) (base : Session) (on : Bool) (c : Connection Loopback) :
    Prop where
  sheltered : Sheltered free base c.channel
  autocommit : c.autocommit = on

theorem Steady.markBroken (h : Steady free base on c) : Steady free base on c.markBroken := by
  unfold Connection.markBroken
  split
  · exact ⟨h.sheltered, h.autocommit⟩
  · exact h

theorem receive_steady : Ensures (Steady free base on) receive (fun _ => Steady free base on)
    (fun _ => Steady free base on) := by
  refine Ensures.of_each fun c hc => (receive_reads c).mono (fun _ h => h) ?_ ?_
  · intro m c' h
    obtain ⟨ms, -, frame, w, read, hd, -⟩ := h
    exact ⟨hc.sheltered.delivered hd, frame.autocommit.trans hc.autocommit⟩
  · intro e c' h
    obtain ⟨d, frame, ⟨w, hd⟩, rfl⟩ := h
    exact Steady.markBroken ⟨hc.sheltered.delivered hd, frame.autocommit.trans hc.autocommit⟩

/-- The readers of an answer leave the session alone. -/
theorem readings_steady : Readings (Steady free base on) (fun _ => Steady free base on)
    (Steady free base on) (Steady free base on) (Steady free base on) where
  receive := receive_steady.mono (fun _ h => h) (fun _ _ h => by simpa using h) fun _ _ h => h
  applied _ h := ⟨h.sheltered, h.autocommit⟩
  failed {c} h := by
    unfold failTransaction
    split
    · exact h
    · exact ⟨h.sheltered, h.autocommit⟩
  weaken h := h
  lost h := h
  dropped h := h.markBroken
  cut h := by
    have hb := (h.elim id id).markBroken
    exact ⟨hb.sheltered, hb.autocommit⟩

/-- What is sent is taken in by the session at once. -/
theorem send_serves {messages : List FrontendMessage} {I : Connection Loopback → Prop}
    (hs : ∀ c bytes, I c → FrontendMessage.encodeAll messages = .ok bytes →
      Sheltered free base (Loopback.send bytes c.channel).2 ∧ c.autocommit = on) :
    Ensures I (send messages) (fun _ => Steady free base on) (fun _ => I) := by
  constructor
  intro c hc
  unfold send
  cases he : FrontendMessage.encodeAll messages with
  | error w => exact hc
  | ok bytes => exact ⟨(hs c bytes hc he).1, (hs c bytes hc he).2⟩

theorem send_steady {messages : List FrontendMessage} {I : Connection Loopback → Prop}
    (hI : ∀ c, I c → Steady free base on c)
    (hs : ∀ c bytes, I c → FrontendMessage.encodeAll messages = .ok bytes →
      Shielded free base (c.channel.session.serve bytes).1 ∧
        ((c.channel.session.serve bytes).2 = [] ∨ (c.channel.session.serve bytes).1.Over)) :
    Ensures I (send messages) (fun _ => Steady free base on) (fun _ => Steady free base on) :=
  (send_serves fun c bytes hc he => ⟨(hI c hc).sheltered.send bytes (hs c bytes hc he),
    (hI c hc).autocommit⟩).mono (fun _ h => h) (fun _ _ h => h) fun _ c h => hI c h

/-- What the connection sends of its own accord has nothing prepared. -/
theorem IsCommand.exposed {sql : String} (h : IsCommand sql) :
    Sql.exposed false (Sql.statements sql) = [] := by
  cases h with
  | begin level => cases level <;> decide +kernel
  | _ => decide +kernel

theorem command_steady {sql : String} (h : IsCommand sql) :
    Ensures (Steady free base on) (command sql) (fun _ => Steady free base on)
      (fun _ => Steady free base on) := by
  refine Ensures.bind (send_steady (fun _ h => h) fun c bytes hc he => ?_)
    fun _ => readings_steady.command
  rw [FrontendMessage.encodeAll_singleton] at he
  refine hc.sheltered.shielded.serve_query he fun text ht => ?_
  have := Sql.exposed_mono _ ht
  rw [h.exposed] at this
  cases this

theorem settle_steady : Ensures (Steady free base on) settle (fun _ => Steady free base on)
    (fun _ => Steady free base on) :=
  readings_steady.drained (fun _ h _ => h) fun _ h _ => h

/-- What the connection does besides running the statements of its caller has nothing prepared
outside a transaction. -/
theorem exchanging_steady :
    Exchanging (fun _ => True) (Steady free base on) (Steady free base on) where
  weaken h := h
  ready h _ := h
  aside h ha := ⟨ha.channel.elim (fun hc => hc ▸ h.sheltered) fun hc => hc ▸ h.sheltered,
    ha.autocommit.trans h.autocommit⟩
  aside_ready h ha := ⟨ha.channel.elim (fun hc => hc ▸ h.sheltered) fun hc => hc ▸ h.sheltered,
    ha.autocommit.trans h.autocommit⟩
  settle := settle_steady.mono (fun _ h => h.1) (fun _ _ h => h) fun _ _ h => h
  command _ h := command_steady h
  pull _ columns _ :=
    (readings_steady.pull (fun h => h) columns).mono (fun _ h => h.1) (fun _ _ h => h)
      fun _ _ h => h

theorem terminate_steady (h : Steady free base on c) :
    Steady free base on (send [.terminate] c).2 := by
  refine (send_steady (fun _ h => h) fun c bytes hc he => ?_).state h
  rw [FrontendMessage.encodeAll_singleton] at he
  exact hc.sheltered.shielded.serve_terminate he

theorem shut_steady (h : Steady free base on c) : Steady free base on c.shut :=
  ⟨h.sheltered.close, h.autocommit⟩

/-- What a client sends while it is let in has nothing prepared. -/
theorem greets_steady : Greets (Steady free base on) (fun _ => True) where
  receive := receive_steady.mono (fun _ h => h) (fun _ _ h => h) fun _ _ _ => trivial
  keyed _ h := ⟨h.sheltered, h.autocommit⟩
  weaken _ := trivial
  password text := by
    refine (send_steady (fun _ h => h) fun c bytes hc he => ?_).mono (fun _ h => h)
      (fun _ _ h => h) fun _ _ _ => trivial
    rw [FrontendMessage.encodeAll_singleton] at he
    exact hc.sheltered.shielded.serve_password he

/-- A connection that was made had nothing prepared. -/
theorem connect_steady {options : ConnectOptions} {s : Session} (ha : s.Alone)
    (hs : s.stage = .startup) (h : (connect options (toSession s)).1 = .ok ()) :
    Steady free s options.autocommit (connect options (toSession s)).2 := by
  refine greets_steady.connected (I := fun c => c.channel = toSession s ∧
    c.autocommit = options.autocommit) ⟨rfl, rfl⟩ ?_ (fun _ h => ⟨h.sheltered, h.autocommit⟩) h
  refine (send_serves fun c bytes hc he => ⟨?_, hc.2⟩).mono (fun _ h => h) (fun _ _ h => h)
    fun _ _ _ => trivial
  rw [FrontendMessage.encodeAll_singleton] at he
  have named := startup_shielded ha hs (covered_refl free s) he
  rw [hc.1, send_loop]
  exact ⟨named.1, named.2⟩

end

end Connection

end SqlWire
