/-! # Lengths of time

Counted in nanoseconds, and shown in the largest unit of which there is at least one.
-/

namespace SqlWire

structure Duration where
  nanos : Nat
  deriving DecidableEq, Repr

namespace Duration

def ofMillis (n : Nat) : Duration := ⟨n * 1000000⟩

def ofSeconds (n : Nat) : Duration := ⟨n * 1000000000⟩

def millis (d : Duration) : Nat := d.nanos / 1000000

def seconds (d : Duration) : Nat := d.nanos / 1000000000

/-- The digits of `part / 10 ^ width` behind the point, without the zeros at their end. -/
def fractionDigits (width part : Nat) : List Char :=
  let digits := Nat.toDigits 10 part
  let padded := List.replicate (width - digits.length) '0' ++ digits
  (padded.reverse.dropWhile (· == '0')).reverse

def inUnit (d : Duration) (size width : Nat) (unit : String) : String :=
  let part := d.nanos % size
  let fraction := if part = 0 then "" else "." ++ String.ofList (fractionDigits width part)
  toString (d.nanos / size) ++ fraction ++ unit

/-- The text of a length of time, such as `1.5s`, `250ms` or `0ns`. -/
def text (d : Duration) : String :=
  if 1000000000 ≤ d.nanos then d.inUnit 1000000000 9 "s"
  else if 1000000 ≤ d.nanos then d.inUnit 1000000 6 "ms"
  else if 1000 ≤ d.nanos then d.inUnit 1000 3 "µs"
  else d.inUnit 1 0 "ns"

end Duration

end SqlWire
