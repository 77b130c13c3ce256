/-! # Whole numbers in text

ASCII digits behind an optional sign, and nothing else. A number outside the range that the
reader was asked for is no number.
-/

namespace SqlWire.Decimal

def digitValue (c : Char) : Nat := c.toNat - 48

def valueOnto (read : Nat) (digits : List Char) : Nat :=
  digits.foldl (fun n c => 10 * n + digitValue c) read

def digits? (text : List Char) : Option Nat :=
  if !text.isEmpty && text.all Char.isDigit then some (valueOnto 0 text) else none

/-- Sets a sign apart: whether it is a minus, and the rest. -/
def sign : List Char → Bool × List Char
  | '+' :: rest => (false, rest)
  | '-' :: rest => (true, rest)
  | text => (false, text)

def natural? (limit : Nat) (s : String) : Option Nat := do
  let text := s.toList
  let n ← digits? (if text.head? = some '+' then text.tail else text)
  if n ≤ limit then some n else none

def word64Max : Nat := 0xFFFFFFFFFFFFFFFF

def signed64? (negative : Bool) (size : Nat) : Option Int :=
  if negative then
    if size ≤ 0x8000000000000000 then some (-(size : Int)) else none
  else
    if size < 0x8000000000000000 then some (size : Int) else none

def int64? (s : String) : Option Int64 := do
  let (negative, text) := sign s.toList
  return Int64.ofInt (← signed64? negative (← digits? text))

end SqlWire.Decimal
