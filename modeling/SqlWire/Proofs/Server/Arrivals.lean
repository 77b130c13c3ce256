import SqlWire.Proofs.Server.PasswordGate

/-!
# Sessions do not see how their bytes arrive

A message that is whole is read the same whatever stands behind it, by the framing without tags as
by the one with tags, and so is a length that no message can have. What a session makes of some
bytes can therefore be had in two steps, cut anywhere: what the first bytes leave over, be it a
piece of the startup packet or whole messages behind it, waits in front of the others.
-/

namespace SqlWire

section

variable {ε α β : Type} {f : α → β}

theorem found_of_map {x : Except ε (Option α)} {b : β} (h : x.map (Option.map f) = .ok (some b)) :
    ∃ a, x = .ok (some a) ∧ f a = b := by
  rcases x with e | _ | a
  · cases h
  · cases h
  · cases h
    exact ⟨a, rfl, rfl⟩

theorem error_of_map {x : Except ε α} {e : ε} (h : x.map f = .error e) : x = .error e := by
  cases x with
  | error e' =>
      cases h
      rfl
  | ok a => cases h

end

namespace Session

/-- Bytes that follow a whole message do not matter for it. -/
theorem nextMessage_append {s : Session} {buffer rest : Bytes}
    {read : Except WireError FrontendMessage} (h : s.nextMessage buffer = .ok (some (read, rest)))
    (more : Bytes) : s.nextMessage (buffer ++ more) = .ok (some (read, rest ++ more)) := by
  unfold nextMessage at h ⊢
  split at h
  · obtain ⟨⟨body, left⟩, hn, he⟩ := found_of_map h
    cases he
    rw [Frame.nextUntagged_append hn]
    rfl
  · cases h
  · obtain ⟨⟨frame, left⟩, hn, he⟩ := found_of_map h
    cases he
    rw [Frame.next_append hn]
    rfl

/-- A length that no message can have is noticed as soon as it is there. -/
theorem nextMessage_error_append {s : Session} {buffer : Bytes} {e : WireError}
    (h : s.nextMessage buffer = .error e) (more : Bytes) :
    s.nextMessage (buffer ++ more) = .error e := by
  unfold nextMessage at h ⊢
  split at h
  · rw [Frame.nextUntagged_error_append (error_of_map h)]
    rfl
  · cases h
  · rw [Frame.next_error_append (error_of_map h)]
    rfl

/-- What came first is taken in first, and what it left over is taken in with the rest. -/
theorem serve_append (s : Session) (buffer more : Bytes) :
    s.serve (buffer ++ more) = (s.serve buffer).1.serve ((s.serve buffer).2 ++ more) := by
  fun_induction serve s buffer with
  | case1 s buffer e hn =>
      rw [serve, nextMessage_error_append hn more, serve_finished]
  | case2 s buffer hn => rfl
  | case3 s buffer read rest hn ih =>
      rw [serve, nextMessage_append hn more]
      exact ih

/-- Chunks are taken in like all their bytes at once. -/
theorem serveChunks_eq {s : Session} {buffer : Bytes} (h : s.nextMessage buffer = .ok none)
    (chunks : List Bytes) : s.serveChunks buffer chunks = s.serve (buffer ++ chunks.flatten) := by
  induction chunks generalizing s buffer with
  | nil =>
      rw [List.flatten_nil, List.append_nil, serve, h]
      rfl
  | cons chunk chunks ih =>
      calc s.serveChunks buffer (chunk :: chunks)
        _ = (s.serve (buffer ++ chunk)).1.serveChunks (s.serve (buffer ++ chunk)).2 chunks := rfl
        _ = s.serve (buffer ++ chunk ++ chunks.flatten) := by
          rw [ih (serve_exhausts s (buffer ++ chunk)), ← serve_append]
        _ = s.serve (buffer ++ (chunk :: chunks).flatten) := by
          rw [List.flatten_cons, List.append_assoc]

theorem nextMessage_nil (s : Session) : s.nextMessage [] = .ok none := by
  unfold nextMessage
  split <;> rfl

/-- However the bytes of a client are cut into chunks, and wherever a write fails: once they are
there, the session is in the same state and has the same bytes left over; and when the client is
gone, it has asked the same of its engine in the same order, has sent the same bytes and has ended
in the same way. The course of the engine may be any; one whose answers depend on nothing but the
calls so far keeps to the same course while the calls are the same, and they are. -/
theorem cuts_do_not_matter (s : Session) {chunks chunks' : List Bytes}
    (same : chunks.flatten = chunks'.flatten) :
    let one := s.run chunks
    let other := s.run chunks'
    s.serveChunks [] chunks = s.serveChunks [] chunks' ∧
      one.engine.calls = other.engine.calls ∧
      one.sent.reverse.flatMap Outgoing.bytes = other.sent.reverse.flatMap Outgoing.bytes ∧
      one.stage = other.stage := by
  intro one other
  have served : s.serveChunks [] chunks = s.serveChunks [] chunks' := by
    rw [serveChunks_eq s.nextMessage_nil, serveChunks_eq s.nextMessage_nil, same]
  have ended : one = other := congrArg (fun left => left.1.hangUp) served
  rw [ended]
  exact ⟨served, rfl, rfl, rfl⟩

/-- A client that is let in by its password and then asks for a row, whose bytes arrive at once or
one by one. -/
theorem cuts_do_not_matter_one_by_one :
    let config : ServerConfig := { databasePath := "", password := some "secret" }
    let source : RowSource := { columns := [⟨"x", none⟩], answers := [.row [.value (.integer 1)]] }
    let s := opened config 1 2 { answers := [.rows source] }
    let bytes := saying [.password "secret", .query "SELECT x"]
    let chunks := [bytes]
    let chunks' := bytes.map fun byte => [byte]
    let one := s.run chunks
    let other := s.run chunks'
    chunks.flatten = chunks'.flatten ∧ s.serveChunks [] chunks = s.serveChunks [] chunks' ∧
      one.engine.calls = other.engine.calls ∧
      one.sent.reverse.flatMap Outgoing.bytes = other.sent.reverse.flatMap Outgoing.bytes ∧
      one.stage = other.stage := by
  intro config source s bytes chunks chunks' one other
  have same : chunks.flatten = chunks'.flatten := by
    simp [chunks, chunks', ← List.flatMap_def]
  exact ⟨same, cuts_do_not_matter s same⟩

end Session

end SqlWire
