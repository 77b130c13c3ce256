import SqlWire.Decimal.Real64

/-! # The fewest digits that read back

Each number is what an interval of reals rounds to. Its shortest decimal is a multiple of the
greatest power of ten that has a multiple in the interval, the nearest of these multiples to
the number itself, and the upper one of two that are equally near.
-/

namespace SqlWire.Decimal

structure Scaled where
  digits : Nat
  exponent : Int
  deriving DecidableEq, Repr

/-- A number and the interval of what rounds to it, over one denominator. -/
structure Rounded where
  low : Nat
  value : Nat
  high : Nat
  den : Nat
  /-- Whether the ends round to the number too. -/
  closed : Bool

namespace Rounded

/-- The interval of a finite number other than zero: half a place each way, and a quarter
below a power of two, where the places become half as wide. -/
def ofReal (x : Real64) : Rounded :=
  let m := x.significand
  let e := x.exponent - 2
  let below := if x.fraction = 0 && 1 < x.exponentField then 1 else 2
  { low := (4 * m - below) <<< e.toNat
    value := (4 * m) <<< e.toNat
    high := (4 * m + 2) <<< e.toNat
    den := 1 <<< (-e).toNat
    closed := m % 2 == 0 }

def onGrid? (r : Rounded) (exponent : Int) : Option Scaled :=
  let scale := Real64.tenTo (-exponent).toNat
  let unit := r.den * Real64.tenTo exponent.toNat
  let below := r.value * scale / unit
  let fits (n : Nat) : Bool :=
    if r.closed then r.low * scale ≤ n * unit && n * unit ≤ r.high * scale
    else r.low * scale < n * unit && n * unit < r.high * scale
  let upperNearer := (2 * below + 1) * unit ≤ 2 * r.value * scale
  if fits (below + 1) && (upperNearer || !fits below) then some ⟨below + 1, exponent⟩
  else if fits below then some ⟨below, exponent⟩
  else none

def shortestFrom (r : Rounded) (exponent : Int) : Nat → Scaled
  | 0 => ⟨r.value / r.den, 0⟩
  | tries + 1 =>
    match r.onGrid? exponent with
    | some s => s
    | none => shortestFrom r (exponent - 1) tries

end Rounded

/-- The shortest decimal of a finite number without its sign. The first power of ten tried is
above the number, and seventeen digits always suffice. -/
def shortest (x : Real64) : Scaled :=
  if x.significand = 0 then ⟨0, 0⟩
  else
    let binary := (x.significand.log2 : Int) + x.exponent
    (Rounded.ofReal x).shortestFrom (Int.fdiv (binary * 30103) 100000 + 2) 32

end SqlWire.Decimal
