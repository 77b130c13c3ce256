/-! # Binary floating point, by its bits

A number is its 64 bits: a sign, eleven bits of exponent and 52 of fraction. Rounding a
fraction to such a number is done in whole numbers, to the nearest and on a tie to the even
neighbour.
-/

namespace SqlWire

structure Real64 where
  bits : UInt64
  deriving DecidableEq, Repr

namespace Real64

def signBit : Nat := 0x8000000000000000

/-- The bit above the fraction: the lowest one of the exponent field, and the one that the
number has before its fraction unless that field is zero. -/
def leadingBit : Nat := 0x10000000000000

def isNegative (x : Real64) : Bool := signBit ≤ x.bits.toNat

def exponentField (x : Real64) : Nat := x.bits.toNat / leadingBit % 2048

def fraction (x : Real64) : Nat := x.bits.toNat % leadingBit

def isNaN (x : Real64) : Bool := x.exponentField = 2047 && x.fraction ≠ 0

def isInfinite (x : Real64) : Bool := x.exponentField = 2047 && x.fraction = 0

/-- The whole number `m` such that the magnitude of a finite number is `m * 2 ^ exponent`. -/
def significand (x : Real64) : Nat :=
  if x.exponentField = 0 then x.fraction else leadingBit + x.fraction

def exponent (x : Real64) : Int :=
  if x.exponentField = 0 then -1074 else (x.exponentField : Int) - 1075

def ofMagnitude (negative : Bool) (magnitude : Nat) : Real64 :=
  ⟨UInt64.ofNat (if negative then signBit + magnitude else magnitude)⟩

def infinityBits : Nat := 2047 * leadingBit

def infinity (negative : Bool) : Real64 := ofMagnitude negative infinityBits

def nan (negative : Bool) : Real64 := ofMagnitude negative (infinityBits + leadingBit / 2)

def zero (negative : Bool) : Real64 := ofMagnitude negative 0

def nearest (num den : Nat) : Nat :=
  let q := num / den
  let r := num % den
  if den < 2 * r then q + 1
  else if 2 * r = den then q + q % 2
  else q

def scaled (num den : Nat) (e : Int) : Nat × Nat :=
  (num <<< (-e).toNat, den <<< e.toNat)

/-- The number nearest to a positive fraction. The last place is worth `2 ^ e`: as much as
leaves 53 bits, and never less than the smallest number there is. A carry out of the fraction
raises the exponent, and one out of the greatest exponent gives infinity. -/
def ofFraction (negative : Bool) (num den : Nat) : Real64 :=
  let guess := max ((num.log2 : Int) - den.log2 - 53) (-1074)
  let (n, d) := scaled num den guess
  let e := if 2 * leadingBit ≤ n / d then guess + 1 else guess
  let (n, d) := scaled num den e
  ofMagnitude negative (min infinityBits ((e + 1074).toNat * leadingBit + nearest n d))

def ofInt (n : Int) : Real64 :=
  if n = 0 then zero false else ofFraction (n < 0) n.natAbs 1

def tenTo (n : Nat) : Nat := Nat.pow 10 n

/-- The number nearest to `digits * 10 ^ e`. Beyond the powers that are computed, every number
is infinite or zero. -/
def ofDecimal (negative : Bool) (digits : Nat) (e : Int) : Real64 :=
  let size := e + (Nat.toDigits 10 digits).length
  if digits = 0 || size < -400 then zero negative
  else if 400 < size then infinity negative
  else ofFraction negative (digits * tenTo e.toNat) (tenTo (-e).toNat)

end Real64

end SqlWire
