import SqlWire.Bytes
import SqlWire.Text.Hex

/-! # Faults in what the wire carries

One constructor for each way in which bytes fail to be a message, or a message fails to be
bytes. `WireError.message` holds all the wording.
-/

namespace SqlWire

inductive WireError where
  /-- A length prefix that does not even count itself, or a negative length. -/
  | invalidLength (length : UInt32)
  /-- A body above the size limit. -/
  | tooLarge (size : Nat)
  /-- The body ended inside the named field. -/
  | truncated (field : String)
  | unterminatedString
  | invalidUtf8 (field : String)
  | interiorNul
  | unknownTag (tag : UInt8)
  | unsupportedVersion (version : Int32)
  | invalidValue (description : String)
  deriving DecidableEq, Repr

namespace WireError

def byteText (b : UInt8) : String :=
  "0x" ++ Text.Hex.encode [b]

def wordText (w : UInt32) : String :=
  "0x" ++ String.ofList (Nat.toDigits 16 w.toNat)

def message : WireError → String
  | invalidLength n => s!"invalid frame length {n.toNat}"
  | tooLarge n => s!"frame of {n} bytes exceeds the size limit"
  | truncated field => "message truncated while reading " ++ field
  | unterminatedString => "string is missing its terminator"
  | invalidUtf8 field => "invalid utf-8 in " ++ field
  | interiorNul => "cstr must not contain a NUL byte"
  | unknownTag tag => "unknown message tag " ++ byteText tag
  | unsupportedVersion v => "unsupported protocol version " ++ wordText v.toUInt32
  | invalidValue description => "invalid value: " ++ description

end WireError

end SqlWire
