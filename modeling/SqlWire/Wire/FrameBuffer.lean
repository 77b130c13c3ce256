import SqlWire.Wire.Frame

/-! # Buffers that messages are taken off

Bytes are put behind a buffer as they arrive, and whole messages are taken off its front. A
message that has not arrived in full stays where it is. So does a length that no message can
have: it is met again until the buffer is cleared.
-/

namespace SqlWire

/-- Bytes that have arrived and belong to no message taken so far. -/
abbrev FrameBuffer := Bytes

namespace FrameBuffer

def empty : FrameBuffer := []

def extend (buffer : FrameBuffer) (chunk : Bytes) : FrameBuffer := buffer ++ chunk

def next (buffer : FrameBuffer) : Except WireError (Option Frame) × FrameBuffer :=
  match Frame.next buffer with
  | .error e => (.error e, buffer)
  | .ok none => (.ok none, buffer)
  | .ok (some (frame, rest)) => (.ok (some frame), rest)

def nextUntagged (buffer : FrameBuffer) : Except WireError (Option Bytes) × FrameBuffer :=
  match Frame.nextUntagged buffer with
  | .error e => (.error e, buffer)
  | .ok none => (.ok none, buffer)
  | .ok (some (body, rest)) => (.ok (some body), rest)

theorem next_shorter {buffer rest : FrameBuffer} {frame : Frame}
    (h : next buffer = (.ok (some frame), rest)) : rest.length < buffer.length := by
  unfold next at h
  split at h
  · cases h
  · cases h
  · next hn =>
    cases h
    exact Frame.next_shorter hn

end FrameBuffer

end SqlWire
