import SqlWire.Wire.Error

/-! # Reading the fields of a body

A reader takes fields off the front of a body. A reader that fails still says what it left:
a field that is too short is left whole, while a string that is not UTF-8 and a length that
cannot be honoured have been taken off.
-/

namespace SqlWire

/-- Takes one thing off the front of a body, or says why it cannot. -/
abbrev Reader := ExceptT WireError (StateM Bytes)

namespace Reader

def read (r : Reader α) (body : Bytes) : Except WireError α :=
  (r.run body).1

def byte (field : String) : Reader UInt8 := fun bytes =>
  match bytes with
  | b :: rest => (.ok b, rest)
  | _ => (.error (.truncated field), bytes)

def word16 (field : String) : Reader UInt16 := fun bytes =>
  match bytes with
  | a :: b :: rest => (.ok (Bytes.word16 a b), rest)
  | _ => (.error (.truncated field), bytes)

def word32 (field : String) : Reader UInt32 := fun bytes =>
  match bytes with
  | a :: b :: c :: d :: rest => (.ok (Bytes.word32 a b c d), rest)
  | _ => (.error (.truncated field), bytes)

def int16 (field : String) : Reader Int16 := do
  return (← word16 field).toInt16

def int32 (field : String) : Reader Int32 := do
  return (← word32 field).toInt32

def bytes (field : String) (n : Nat) : Reader Bytes := fun body =>
  if n ≤ body.length then (.ok (body.take n), body.drop n)
  else (.error (.truncated field), body)

def text (field : String) : Reader String := fun body =>
  match body.dropWhile (· != 0) with
  | [] => (.error .unterminatedString, body)
  | _ :: rest =>
    match Bytes.text? (body.takeWhile (· != 0)) with
    | some s => (.ok s, rest)
    | none => (.error (.invalidUtf8 field), rest)

theorem text_length_lt {field s : String} {body rest : Bytes}
    (h : text field body = (.ok s, rest)) : rest.length < body.length := by
  have bound := (List.dropWhile_sublist (· != 0) (l := body)).length_le
  unfold text at h
  split at h
  · cases h
  · next _ tail heq =>
    rw [heq, List.length_cons] at bound
    split at h
    · cases h
      exact bound
    · cases h

theorem text_length_le (field : String) (body : Bytes) :
    (text field body).2.length ≤ body.length := by
  have h := (List.dropWhile_sublist (· != 0) (l := body)).length_le
  unfold text
  split
  · exact Nat.le_refl _
  · next _ rest heq =>
    rw [heq, List.length_cons] at h
    split
    · exact Nat.le_of_succ_le h
    · exact Nat.le_of_succ_le h

/-- Bytes behind a 32-bit count of them, where the count -1 stands for no value at all. -/
def nullable (field : String) : Reader (Option Bytes) := do
  let size ← int32 field
  if size = -1 then return none
  if size < 0 then throw (.invalidLength size.toUInt32)
  return some (← bytes field size.toInt.toNat)

def times (n : Nat) (r : Reader α) : Reader (List α) :=
  (List.replicate n r).mapM id

end Reader

namespace Bytes

/-- A string and the NUL that ends it; a string with a NUL of its own has no such form. -/
def terminated (raw : Bytes) : Except WireError Bytes :=
  if raw.contains 0 then .error .interiorNul else .ok (raw ++ [0])

def ofTerminated (s : String) : Except WireError Bytes :=
  terminated (ofText s)

/-- A value behind the 32-bit count of its bytes, or the count -1 alone. -/
def ofNullable : Option Bytes → Bytes
  | none => ofWord32 0xffffffff
  | some raw => ofWord32 (UInt32.ofNat raw.length) ++ raw

/-- The low 16 bits of a count. -/
def ofCount (n : Nat) : Bytes :=
  ofWord16 (UInt16.ofNat n)

end Bytes

end SqlWire
