import SqlWire.Decimal.Shortest

/-! # How a number is written out

The digits are always the fewest that read back. A layout says when they are written with an
exponent, whether a whole number keeps its `.0`, and how infinity is spelled.
-/

namespace SqlWire.Decimal

structure Layout where
  /-- Numbers below `10 ^ lower` or from `10 ^ upper` on get an exponent. -/
  positional : Option (Int × Int)
  /-- Whether a whole number ends in `.0`. -/
  keepsPoint : Bool
  infinity : String
  deriving DecidableEq, Repr

/-- The digits without the zeros at their end, and the power of ten of the first one. -/
def normalized (s : Scaled) : List Char × Int :=
  let digits := Nat.toDigits 10 s.digits
  let kept := (digits.reverse.dropWhile (· == '0')).reverse
  (if kept.isEmpty then ['0'] else kept, s.exponent + digits.length - 1)

def positionalText (keepsPoint : Bool) (digits : List Char) (leading : Int) : List Char :=
  if leading < 0 then
    '0' :: '.' :: List.replicate (-leading - 1).toNat '0' ++ digits
  else
    let whole := leading.toNat + 1
    if digits.length ≤ whole then
      digits ++ List.replicate (whole - digits.length) '0' ++
        (if keepsPoint then ['.', '0'] else [])
    else digits.take whole ++ '.' :: digits.drop whole

def exponentText (digits : List Char) (leading : Int) : List Char :=
  digits.take 1 ++ (if digits.length ≤ 1 then [] else '.' :: digits.drop 1)
    ++ 'e' :: (toString leading).toList

def Layout.magnitude (layout : Layout) (x : Real64) : List Char :=
  if x.significand = 0 then positionalText layout.keepsPoint ['0'] 0
  else
    let (digits, leading) := normalized (shortest x)
    match layout.positional with
    | none => positionalText layout.keepsPoint digits leading
    | some (lower, upper) =>
      if lower ≤ leading && leading < upper then positionalText layout.keepsPoint digits leading
      else exponentText digits leading

def Layout.text (layout : Layout) (x : Real64) : String :=
  if x.isNaN then "NaN"
  else
    let magnitude := if x.isInfinite then layout.infinity else String.ofList (layout.magnitude x)
    if x.isNegative then "-" ++ magnitude else magnitude

end SqlWire.Decimal
