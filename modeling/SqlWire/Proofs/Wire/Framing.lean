import SqlWire.Proofs.Wire.Stream
import SqlWire.Wire.FrameBuffer

/-!
# Framing

Frames come off a buffer as they were put in: `Step` is what can be done with a buffer, and along
every run of steps the frames that were taken and the bytes that are left make up the input. How
the input is cut into chunks makes no difference to the frames, nor to the length at which a
stream goes wrong; and a buffer with such a length in front stays as it is.
-/

namespace SqlWire

def Frame.bytes (frame : Frame) : Bytes :=
  frame.tag :: (Bytes.ofWord32 (UInt32.ofNat (frame.body.length + 4)) ++ frame.body)

theorem Bytes.ofWord32_word32 (a b c d : UInt8) : ofWord32 (word32 a b c d) = [a, b, c, d] := by
  have ha := a.toNat_lt
  have hb := b.toNat_lt
  have hc := c.toNat_lt
  have hd := d.toNat_lt
  simp only [ofWord32, List.cons.injEq, and_true, ← UInt8.toNat_inj, UInt32.toNat_toUInt8,
    UInt32.toNat_shiftRight, word32_toNat, Nat.shiftRight_eq_div_pow]
  simp
  omega

/-- The size that a prefix announces is the one that is written as this prefix. -/
theorem Frame.bodySize_eq_ok {w : UInt32} {n : Nat} (h : bodySize w = .ok n) :
    w = UInt32.ofNat (n + 4) := by
  unfold bodySize at h
  split at h
  · cases h
  · split at h
    · cases h
    · next hl _ =>
        cases h
        rw [Nat.sub_add_cancel (by omega), UInt32.ofNat_toNat]

/-- A frame that was taken stood in front, byte for byte. -/
theorem Frame.next_bytes {buffer rest : Bytes} {frame : Frame}
    (h : next buffer = .ok (some (frame, rest))) : buffer = frame.bytes ++ rest := by
  unfold next at h
  split at h
  · next tag a b c d tail =>
      split at h
      · cases h
      · next n hn =>
          split at h
          · next hl =>
              cases h
              have hw := bodySize_eq_ok hn
              simp [bytes, Nat.min_eq_left hl, ← hw, Bytes.ofWord32_word32]
          · cases h
  · cases h

namespace FrameBuffer

theorem next_eq_error {buffer rest : FrameBuffer} {e : WireError} :
    next buffer = (.error e, rest) ↔ Frame.next buffer = .error e ∧ buffer = rest := by
  unfold next
  split <;> simp_all

theorem next_eq_none {buffer rest : FrameBuffer} :
    next buffer = (.ok none, rest) ↔ Frame.next buffer = .ok none ∧ buffer = rest := by
  unfold next
  split <;> simp_all

theorem next_eq_some {buffer rest : FrameBuffer} {frame : Frame} :
    next buffer = (.ok (some frame), rest) ↔ Frame.next buffer = .ok (some (frame, rest)) := by
  unfold next
  split <;> simp_all

/-! ## Steps -/

inductive Step where
  | extend (chunk : Bytes)
  | next
  | clear

def run (buffer : FrameBuffer) :
    List Step → List (Except WireError (Option Frame)) × FrameBuffer
  | [] => ([], buffer)
  | .extend chunk :: steps => run (extend buffer chunk) steps
  | .clear :: steps => run empty steps
  | .next :: steps =>
    let (answer, left) := next buffer
    let (answers, last) := run left steps
    (answer :: answers, last)

def fed : List Step → Bytes
  | [] => []
  | .extend chunk :: steps => chunk ++ fed steps
  | .next :: steps => fed steps
  | .clear :: steps => fed steps

def framesOf (answers : List (Except WireError (Option Frame))) : List Frame :=
  answers.filterMap fun answer => answer.toOption.join

/-- A request takes a frame off the front or leaves the buffer as it is. -/
theorem next_conserves (buffer : FrameBuffer) :
    (framesOf [(next buffer).1]).flatMap Frame.bytes ++ (next buffer).2 = buffer := by
  unfold next
  split
  · simp [framesOf, Except.toOption]
  · simp [framesOf, Except.toOption]
  · next frame rest hn => simp [framesOf, Except.toOption, Frame.next_bytes hn]

theorem framesOf_cons (answer : Except WireError (Option Frame))
    (answers : List (Except WireError (Option Frame))) :
    framesOf (answer :: answers) = framesOf [answer] ++ framesOf answers := by
  simp only [framesOf, List.filterMap_cons, List.filterMap_nil]
  cases answer.toOption.join with
  | none => rfl
  | some frame => rfl

theorem run_conserves (buffer : FrameBuffer) {steps : List Step} (hs : .clear ∉ steps) :
    (framesOf (run buffer steps).1).flatMap Frame.bytes ++ (run buffer steps).2 =
      buffer ++ fed steps := by
  induction steps generalizing buffer with
  | nil => simp [run, fed, framesOf]
  | cons step steps ih =>
      simp only [List.mem_cons, not_or] at hs
      cases step with
      | extend chunk =>
          rw [run, ih _ hs.2, extend, fed, List.append_assoc]
      | next =>
          -- What this request took stands in front of what the later ones take.
          have hn := next_conserves buffer
          have hr := ih (next buffer).2 hs.2
          rw [run, fed]
          rw [framesOf_cons, List.flatMap_append, List.append_assoc, hr, ← List.append_assoc, hn]
      | clear => exact absurd rfl hs.1

/-- A length that no message can have is met by every request and stays in front. -/
theorem run_error {buffer : FrameBuffer} {e : WireError} (he : Frame.next buffer = .error e)
    {steps : List Step} (hs : .clear ∉ steps) :
    (∀ answer ∈ (run buffer steps).1, answer = .error e) ∧
      (run buffer steps).2 = buffer ++ fed steps := by
  induction steps generalizing buffer with
  | nil => simp [run, fed]
  | cons step steps ih =>
      simp only [List.mem_cons, not_or] at hs
      cases step with
      | extend chunk =>
          have hr := ih (Frame.next_error_append he chunk) hs.2
          rw [run, extend, fed, ← List.append_assoc]
          exact hr
      | next =>
          have hn : next buffer = (.error e, buffer) := by simp [next, he]
          have hr := ih he hs.2
          simpa [run, fed, hn] using hr
      | clear => exact absurd rfl hs.1

/-! ## Chunks -/

/-- What taking frames off a buffer came to: the frames, and the bytes that are left or the
complaint about a length that no message can have. -/
structure Harvest where
  frames : List Frame
  left : Except WireError FrameBuffer

def drain (buffer : FrameBuffer) : Harvest :=
  match _h : next buffer with
  | (.error e, _) => ⟨[], .error e⟩
  | (.ok none, rest) => ⟨[], .ok rest⟩
  | (.ok (some frame), rest) =>
    let later := drain rest
    { later with frames := frame :: later.frames }
termination_by buffer.length
decreasing_by exact next_shorter _h

/-- Puts chunk after chunk behind a buffer and takes the frames off after each of them, up to
the first complaint. -/
def feed (buffer : FrameBuffer) : List Bytes → Harvest
  | [] => ⟨[], .ok buffer⟩
  | chunk :: chunks =>
    let first := drain (extend buffer chunk)
    match first.left with
    | .error _ => first
    | .ok rest =>
      let later := feed rest chunks
      { later with frames := first.frames ++ later.frames }

theorem drain_error {buffer : FrameBuffer} {e : WireError} (h : Frame.next buffer = .error e) :
    drain buffer = ⟨[], .error e⟩ := by
  rw [drain]
  split <;> simp_all [next_eq_error, next_eq_none, next_eq_some]

theorem drain_none {buffer : FrameBuffer} (h : Frame.next buffer = .ok none) :
    drain buffer = ⟨[], .ok buffer⟩ := by
  rw [drain]
  split <;> simp_all [next_eq_error, next_eq_none, next_eq_some]

theorem drain_some {buffer rest : FrameBuffer} {frame : Frame}
    (h : Frame.next buffer = .ok (some (frame, rest))) :
    drain buffer = { drain rest with frames := frame :: (drain rest).frames } := by
  rw [drain]
  split <;> simp_all [next_eq_error, next_eq_none, next_eq_some]

/-- No whole frame is left. -/
theorem next_drain {buffer rest : FrameBuffer} (h : (drain buffer).left = .ok rest) :
    Frame.next rest = .ok none := by
  fun_induction drain buffer with
  | case1 => cases h
  | case2 buffer left hn =>
      obtain ⟨hfront, rfl⟩ := next_eq_none.1 hn
      cases h
      exact hfront
  | case3 buffer frame left hn later ih => exact ih h

/-- Nothing that arrives behind a wrong length is looked at. -/
theorem drain_append_error {buffer : FrameBuffer} {e : WireError}
    (h : (drain buffer).left = .error e) (more : Bytes) :
    drain (buffer ++ more) = drain buffer := by
  fun_induction drain buffer with
  | case1 buffer e' rest hn =>
      obtain ⟨hfront, rfl⟩ := next_eq_error.1 hn
      exact drain_error (Frame.next_error_append hfront more)
  | case2 => cases h
  | case3 buffer frame rest hn later ih =>
      rw [drain_some (Frame.next_append (next_eq_some.1 hn) more), ih h]

/-- Bytes that arrive behind what was left go on from there. -/
theorem drain_append_ok {buffer rest : FrameBuffer} (h : (drain buffer).left = .ok rest)
    (more : Bytes) : drain (buffer ++ more) =
      let later := drain (rest ++ more)
      { later with frames := (drain buffer).frames ++ later.frames } := by
  fun_induction drain buffer with
  | case1 => cases h
  | case2 buffer left hn =>
      obtain ⟨-, rfl⟩ := next_eq_none.1 hn
      cases h
      rfl
  | case3 buffer frame left hn later ih =>
      rw [drain_some (Frame.next_append (next_eq_some.1 hn) more), ih h]
      rfl

/-- Chunk by chunk or all at once: a buffer without a whole frame gives the same. -/
theorem feed_eq_drain {buffer : FrameBuffer} (hb : Frame.next buffer = .ok none)
    (chunks : List Bytes) : feed buffer chunks = drain (buffer ++ chunks.flatten) := by
  induction chunks generalizing buffer with
  | nil =>
      rw [feed, List.flatten_nil, List.append_nil, drain_none hb]
  | cons chunk chunks ih =>
      rw [List.flatten_cons, ← List.append_assoc, feed, extend]
      -- What is left after a chunk holds no whole frame, so the next chunks go on from there.
      cases hl : (drain (buffer ++ chunk)).left with
      | error e => rw [drain_append_error hl]
      | ok rest => rw [drain_append_ok hl, ← ih (next_drain hl)]

/-- However a stream is cut into chunks, the same frames come off it in the same order, with the
same complaint or the same bytes left. At every moment the frames that were taken and the bytes
that are left make up what has arrived. A length that no message can have is complained about by
every request, and the buffer only grows behind it, until it is cleared. -/
theorem framing_ignores_chunks :
    (∀ chunks : List Bytes, feed empty chunks = feed empty [chunks.flatten]) ∧
    (∀ steps : List Step, .clear ∉ steps →
      (framesOf (run empty steps).1).flatMap Frame.bytes ++ (run empty steps).2 = fed steps) ∧
    ∀ (buffer : FrameBuffer) (e : WireError) (steps : List Step),
      (next buffer).1 = .error e → .clear ∉ steps →
        (∀ answer ∈ (run buffer steps).1, answer = .error e) ∧
          (run buffer steps).2 = buffer ++ fed steps := by
  refine ⟨?_, ?_, ?_⟩
  · intro chunks
    have whole := feed_eq_drain Frame.next_nil [chunks.flatten]
    rw [List.flatten_singleton] at whole
    exact (feed_eq_drain Frame.next_nil chunks).trans whole.symm
  · intro steps hs
    exact run_conserves empty hs
  · intro buffer e steps he hs
    have answered : next buffer = (.error e, (next buffer).2) := by rw [← he]
    obtain ⟨hfront, -⟩ := next_eq_error.1 answered
    exact run_error hfront hs

/-- A frame that is cut inside its length, the beginning of another one behind it, and a length
that does not count itself. -/
theorem framing_ignores_chunks_cut :
    let cut : List Bytes := [[73, 0, 0], [0, 4, 90, 0]]
    let steps : List Step := [.extend [73, 0, 0], .next, .extend [0, 4, 90, 0], .next, .next]
    let wrong : FrameBuffer := [90, 0, 0, 0, 3]
    let later : List Step := [.next, .extend [1], .next]
    feed empty cut = feed empty [[73, 0, 0, 0, 4, 90, 0]] ∧
      (.clear ∉ steps ∧ framesOf (run empty steps).1 = [⟨73, []⟩] ∧
        (framesOf (run empty steps).1).flatMap Frame.bytes ++ (run empty steps).2 =
          [73, 0, 0, 0, 4, 90, 0]) ∧
      (next wrong).1 = .error (.invalidLength 3) ∧ .clear ∉ later ∧
        (∀ answer ∈ (run wrong later).1, answer = .error (.invalidLength 3)) ∧
        (run wrong later).2 = [90, 0, 0, 0, 3, 1] := by
  intro cut steps wrong later
  have hs : .clear ∉ steps := by simp [steps]
  have hl : .clear ∉ later := by simp [later]
  obtain ⟨chunked, conserved, stuck⟩ := framing_ignores_chunks
  exact ⟨chunked cut, ⟨hs, rfl, conserved steps hs⟩, rfl, hl, stuck wrong _ later rfl hl⟩

end FrameBuffer

end SqlWire
