import SqlWire.Bytes
import SqlWire.Text.Hex
import SqlWire.Text.Unshown

/-! # Quoted text and quoted bytes

Text stands between double quotes; quotes and backslashes get a backslash, a few controls have
a letter, and every other character that does not show by itself is named by its number.
Bytes stand between `b"` and a quote, with two hexadecimal digits for what is not ASCII.
-/

namespace SqlWire.Text

def quotedChar (c : Char) : List Char :=
  match c with
  | '\x00' => ['\\', '0']
  | '\t' => ['\\', 't']
  | '\r' => ['\\', 'r']
  | '\n' => ['\\', 'n']
  | '"' => ['\\', '"']
  | '\\' => ['\\', '\\']
  | c =>
    if isUnshown c then ['\\', 'u', '\x7b'] ++ Nat.toDigits 16 c.toNat ++ ['\x7d']
    else [c]

def quoted (s : String) : String :=
  String.ofList ('"' :: s.toList.flatMap quotedChar ++ ['"'])

def quotedByte (b : UInt8) : List Char :=
  match Char.ofUInt8 b with
  | '\x00' => ['\\', '0']
  | '\t' => ['\\', 't']
  | '\r' => ['\\', 'r']
  | '\n' => ['\\', 'n']
  | '"' => ['\\', '"']
  | '\\' => ['\\', '\\']
  | c =>
    if ' ' ≤ c ∧ c ≤ '~' then [c]
    else ['\\', 'x', Hex.digit (b >>> 4), Hex.digit (b &&& 15)]

def quotedBytes (bytes : Bytes) : String :=
  String.ofList ('b' :: '"' :: bytes.flatMap quotedByte ++ ['"'])

end SqlWire.Text
