import SqlWire.Bytes

/-! # Hexadecimal text

Two lower-case digits for each byte. Reading also takes upper-case digits, and takes nothing
else: text of odd length or with any other character is refused as a whole.
-/

namespace SqlWire.Text.Hex

def digit (n : UInt8) : Char :=
  if n < 10 then Char.ofNat (48 + n.toNat) else Char.ofNat (87 + n.toNat)

def value? (c : Char) : Option UInt8 :=
  if '0' ≤ c ∧ c ≤ '9' then some (UInt8.ofNat (c.toNat - 48))
  else if 'a' ≤ c ∧ c ≤ 'f' then some (UInt8.ofNat (c.toNat - 87))
  else if 'A' ≤ c ∧ c ≤ 'F' then some (UInt8.ofNat (c.toNat - 55))
  else none

def digits (bytes : Bytes) : List Char :=
  bytes.flatMap fun b : UInt8 => [digit (b >>> 4), digit (b &&& 15)]

def encode (bytes : Bytes) : String :=
  String.ofList (digits bytes)

/-- Reads the digits two by two behind the bytes read so far, which are kept newest first. -/
def bytesOnto (read : Bytes) : List Char → Option Bytes
  | [] => some read.reverse
  | [_] => none
  | high :: low :: rest =>
    match value? high, value? low with
    | some h, some l => bytesOnto ((h <<< 4 ||| l) :: read) rest
    | _, _ => none

def decode (s : String) : Option Bytes :=
  bytesOnto [] s.toList

end SqlWire.Text.Hex
