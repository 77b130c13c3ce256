import SqlWire.Wire.Error

/-! # Frames

A message is a tag, the length of the rest as a 32-bit word that counts itself, and a body.
The messages that open a session have no tag. `Frame.next` and `Frame.nextUntagged` take the
first whole message off a buffer: a message that has not arrived in full leaves the buffer as
it is, and so does a length that no message can have.
-/

namespace SqlWire

structure Frame where
  tag : UInt8
  body : Bytes
  deriving DecidableEq, Repr

namespace Frame

/-- No body is larger than this. -/
def maxBody : Nat := 16 * 1024 * 1024

def bodySize (prefixed : UInt32) : Except WireError Nat :=
  if prefixed.toNat < 4 then .error (.invalidLength prefixed)
  else if maxBody < prefixed.toNat - 4 then .error (.tooLarge (prefixed.toNat - 4))
  else .ok (prefixed.toNat - 4)

def next (buffer : Bytes) : Except WireError (Option (Frame × Bytes)) :=
  match buffer with
  | tag :: a :: b :: c :: d :: rest =>
    match bodySize (Bytes.word32 a b c d) with
    | .error e => .error e
    | .ok n => if n ≤ rest.length then .ok (some (⟨tag, rest.take n⟩, rest.drop n)) else .ok none
  | _ => .ok none

def nextUntagged (buffer : Bytes) : Except WireError (Option (Bytes × Bytes)) :=
  match buffer with
  | a :: b :: c :: d :: rest =>
    match bodySize (Bytes.word32 a b c d) with
    | .error e => .error e
    | .ok n => if n ≤ rest.length then .ok (some (rest.take n, rest.drop n)) else .ok none
  | _ => .ok none

def untagged (body : Bytes) : Except WireError Bytes :=
  if maxBody < body.length then .error (.tooLarge body.length)
  else .ok (Bytes.ofWord32 (UInt32.ofNat (body.length + 4)) ++ body)

def tagged (tag : UInt8) (body : Bytes) : Except WireError Bytes :=
  (untagged body).map (tag :: ·)

theorem next_shorter {buffer rest : Bytes} {f : Frame}
    (h : next buffer = .ok (some (f, rest))) : rest.length < buffer.length := by
  unfold next at h
  split at h
  · split at h
    · simp at h
    · split at h
      · simp at h
        simp [← h.2]
        omega
      · simp at h
  · simp at h

theorem nextUntagged_shorter {buffer body rest : Bytes}
    (h : nextUntagged buffer = .ok (some (body, rest))) : rest.length < buffer.length := by
  unfold nextUntagged at h
  split at h
  · split at h
    · simp at h
    · split at h
      · simp at h
        simp [← h.2]
        omega
      · simp at h
  · simp at h

end Frame

end SqlWire
