import SqlWire.Proofs.Wire.Messages

/-!
# Byte streams as lists of messages

`Spells bytes ms` says that the bytes are whole frames, one behind the other, and that these
frames hold the messages `ms`. Bytes spell at most one list, and what is taken off the front of
a stream does not depend on what follows.
-/

namespace SqlWire

namespace Frame

/-- Bytes that follow a whole frame do not matter for it. -/
theorem next_append {buffer rest : Bytes} {f : Frame} (h : next buffer = .ok (some (f, rest)))
    (more : Bytes) : next (buffer ++ more) = .ok (some (f, rest ++ more)) := by
  unfold next at h
  split at h
  · next tag a b c d tail =>
      split at h
      · cases h
      · next n hn =>
          split at h
          · next hl =>
              cases h
              simp only [List.cons_append, next, hn]
              rw [if_pos (by rw [List.length_append]; omega), List.take_append_of_le_length hl,
                List.drop_append_of_le_length hl]
          · cases h
  · cases h

/-- A length that no frame can have is noticed as soon as it is there. -/
theorem next_error_append {buffer : Bytes} {e : WireError} (h : next buffer = .error e)
    (more : Bytes) : next (buffer ++ more) = .error e := by
  unfold next at h
  split at h
  · next tag a b c d tail =>
      split at h
      · next e' he =>
          cases h
          simp only [List.cons_append, next, he]
      · split at h <;> cases h
  · cases h

theorem next_nil : next [] = .ok none := rfl

/-- Of a frame whose end is missing nothing is taken. -/
theorem next_unfinished {front more : Bytes} {f : Frame}
    (h : next (front ++ more) = .ok (some (f, []))) (hm : more ≠ []) : next front = .ok none := by
  rcases hn : next front with e | _ | ⟨frame, rest⟩
  · rw [next_error_append hn] at h
    cases h
  · rfl
  · rw [next_append hn more] at h
    simp [hm] at h

/-- A frame that was taken stood at the front of the buffer. -/
theorem next_front {buffer rest : Bytes} {f : Frame} (h : next buffer = .ok (some (f, rest))) :
    ∃ front, buffer = front ++ rest ∧ next front = .ok (some (f, [])) := by
  unfold next at h
  split at h
  · next tag a b c d tail =>
      split at h
      · cases h
      · next n hn =>
          split at h
          · next hl =>
              cases h
              refine ⟨tag :: a :: b :: c :: d :: tail.take n, by simp, ?_⟩
              simp [next, hn, hl, List.take_take]
          · cases h
  · cases h

end Frame

inductive Spells : Bytes → List BackendMessage → Prop
  | nil : Spells [] []
  | cons {bytes rest : Bytes} {frame : Frame} {m : BackendMessage} {ms : List BackendMessage}
      (taken : Frame.next bytes = .ok (some (frame, rest)))
      (read : BackendMessage.decode frame = .ok m) (more : Spells rest ms) : Spells bytes (m :: ms)

namespace Spells

theorem append {a b : Bytes} {ms ns : List BackendMessage} (h : Spells a ms) (h' : Spells b ns) :
    Spells (a ++ b) (ms ++ ns) := by
  induction h with
  | nil => exact h'
  | cons taken read _ ih => exact .cons (Frame.next_append taken b) read ih

theorem eq_nil {bytes : Bytes} (h : Spells bytes []) : bytes = [] := by
  cases h
  rfl

theorem nil_iff {ms : List BackendMessage} : Spells [] ms ↔ ms = [] := by
  constructor
  · intro h
    cases h with
    | nil => rfl
    | cons taken =>
        rw [Frame.next_nil] at taken
        cases taken
  · intro h
    subst h
    exact .nil

/-- The same bytes do not spell two lists. -/
theorem unique {bytes : Bytes} {ms ns : List BackendMessage} (h : Spells bytes ms)
    (h' : Spells bytes ns) : ms = ns := by
  induction h generalizing ns with
  | nil => exact (nil_iff.1 h').symm
  | cons taken read _ ih =>
      cases h' with
      | nil =>
          rw [Frame.next_nil] at taken
          cases taken
      | cons taken' read' more' =>
          rw [taken] at taken'
          cases taken'
          rw [read] at read'
          cases read'
          rw [ih more']

theorem of_next {bytes rest : Bytes} {frame : Frame} {ms : List BackendMessage}
    (taken : Frame.next bytes = .ok (some (frame, rest))) (h : Spells bytes ms) :
    ∃ m tail, ms = m :: tail ∧ BackendMessage.decode frame = .ok m ∧ Spells rest tail := by
  cases h with
  | nil =>
      rw [Frame.next_nil] at taken
      cases taken
  | cons taken' read' more' =>
      rw [taken'] at taken
      cases taken
      exact ⟨_, _, rfl, read', more'⟩

theorem next_ne_error {bytes : Bytes} {ms : List BackendMessage} (h : Spells bytes ms)
    (e : WireError) : Frame.next bytes ≠ .error e := by
  intro he
  cases h with
  | nil =>
      rw [Frame.next_nil] at he
      cases he
  | cons taken =>
      rw [taken] at he
      cases he

/-- A frame at the front of bytes that continue a stream is the stream's first message. -/
theorem of_front {front rest behind : Bytes} {frame : Frame} {ms : List BackendMessage}
    (taken : Frame.next front = .ok (some (frame, rest))) (h : Spells (front ++ behind) ms) :
    ∃ m tail, ms = m :: tail ∧ BackendMessage.decode frame = .ok m ∧ Spells (rest ++ behind) tail :=
  of_next (Frame.next_append taken behind) h

/-- The front of a stream has no length that a frame cannot have. -/
theorem front_ne_error {front behind : Bytes} {ms : List BackendMessage}
    (h : Spells (front ++ behind) ms) (e : WireError) : Frame.next front ≠ .error e :=
  fun he => h.next_ne_error e (Frame.next_error_append he behind)

theorem of_encode {m : BackendMessage} {bytes : Bytes} (hp : m.Plain) (h : m.encode = .ok bytes) :
    Spells bytes [m.received] := by
  obtain ⟨frame, hn, hd⟩ := BackendMessage.next_encode hp h []
  rw [List.append_nil] at hn
  exact .cons hn hd .nil

end Spells

/-- Messages that a client takes note of without looking at them as part of an answer. -/
def BackendMessage.isAside : BackendMessage → Bool
  | parameterStatus .. | noticeResponse _ => true
  | _ => false

def HasError (ms : List BackendMessage) : Prop :=
  ∃ report, .errorResponse report ∈ ms

theorem hasError_nil : ¬HasError [] := by
  intro h
  obtain ⟨_, h⟩ := h
  cases h

theorem hasError_cons {m : BackendMessage} {ms : List BackendMessage}
    (hm : ∀ report, m ≠ .errorResponse report) : HasError (m :: ms) ↔ HasError ms := by
  constructor
  · intro h
    obtain ⟨report, h⟩ := h
    rcases List.mem_cons.1 h with rfl | h
    · exact absurd rfl (hm report)
    · exact ⟨report, h⟩
  · intro h
    obtain ⟨report, h⟩ := h
    exact ⟨report, List.mem_cons_of_mem m h⟩

end SqlWire
