import SqlWire.Decimal.Integer
import SqlWire.Decimal.Real64

/-! # Numbers with a point or an exponent in text

A sign, digits with at most one point among or beside them, and an exponent, of which only
one digit before the exponent is required; or one of three words in any case.
-/

namespace SqlWire.Decimal

def exponent? : List Char → Option Int
  | [] => some 0
  | c :: rest => do
    if c ≠ 'e' ∧ c ≠ 'E' then none
    let (negative, text) := sign rest
    let n ← digits? text
    return if negative then -(n : Int) else n

def magnitude? (negative : Bool) (text : List Char) : Option Real64 := do
  let whole := text.takeWhile Char.isDigit
  let rest := text.dropWhile Char.isDigit
  let behind := if rest.head? = some '.' then rest.tail else []
  let fraction := behind.takeWhile Char.isDigit
  let ending := if rest.head? = some '.' then behind.dropWhile Char.isDigit else rest
  if whole.isEmpty && fraction.isEmpty then none
  let e ← exponent? ending
  return Real64.ofDecimal negative (valueOnto (valueOnto 0 whole) fraction) (e - fraction.length)

def real64? (s : String) : Option Real64 :=
  let (negative, text) := sign s.toList
  match String.ofList (text.map Char.toLower) with
  | "inf" | "infinity" => some (Real64.infinity negative)
  | "nan" => some (Real64.nan negative)
  | _ => magnitude? negative text

end SqlWire.Decimal
