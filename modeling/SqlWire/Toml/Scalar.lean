import SqlWire.Decimal.Reading
import SqlWire.Toml.Table

/-! # Numbers, truth values and dates of TOML

A word without quotes is one of these as a whole or nothing.
-/

namespace SqlWire.Toml

/-- Digits with single underscores between them: the digits alone. -/
def ungrouped? (isDigit : Char → Bool) (word : List Char) : Option (List Char) :=
  let groups := word.splitOn '_'
  if groups.all fun g => !g.isEmpty && g.all isDigit then some groups.flatten else none

def hasLeadingZero (digits : List Char) : Bool :=
  digits.head? == some '0' && 1 < digits.length

def radixInteger? (radix : Nat) (isDigit : Char → Bool) (word : List Char) : Option Int := do
  let digits ← ungrouped? isDigit word
  Decimal.signed64? false (digits.foldl (fun n c =>
    radix * n + (if c.isDigit then c.toNat - 48 else c.toLower.toNat - 87)) 0)

def integer? (word : List Char) : Option Int :=
  match word with
  | '0' :: 'x' :: rest =>
    radixInteger? 16 (fun c => c.isDigit || ('a' ≤ c.toLower && c.toLower ≤ 'f')) rest
  | '0' :: 'o' :: rest => radixInteger? 8 (fun c => '0' ≤ c && c ≤ '7') rest
  | '0' :: 'b' :: rest => radixInteger? 2 (fun c => c == '0' || c == '1') rest
  | _ => do
    let (negative, text) := Decimal.sign word
    let digits ← ungrouped? Char.isDigit text
    if hasLeadingZero digits then none
    Decimal.signed64? negative (Decimal.valueOnto 0 digits)

/-- A number with a point, an exponent or both, or one of the two words for what no digits
spell. A number that would round to infinity is refused. -/
def float? (word : List Char) : Option Real64 := do
  let (negative, text) := Decimal.sign word
  if text = ['i', 'n', 'f'] then return Real64.infinity negative
  if text = ['n', 'a', 'n'] then return Real64.nan negative
  let isMark (c : Char) : Bool := c == '.' || c == 'e' || c == 'E'
  let whole ← ungrouped? Char.isDigit (text.takeWhile (!isMark ·))
  if hasLeadingZero whole then none
  let rest := text.dropWhile (!isMark ·)
  let (fraction, ending) ← match rest with
    | '.' :: behind => do
      let digits ← ungrouped? Char.isDigit (behind.takeWhile (!isMark ·))
      pure ('.' :: digits, behind.dropWhile (!isMark ·))
    | _ => pure ([], rest)
  let exponent ← match ending with
    | [] => if fraction.isEmpty then none else pure []
    | c :: behind =>
      if c = '.' then none
      let (minus, digits) := Decimal.sign behind
      pure ('e' :: (if minus then '-' else '+') :: (← ungrouped? Char.isDigit digits))
  let x ← Decimal.magnitude? negative (whole ++ fraction ++ exponent)
  if x = Real64.infinity false then none else some x

def part? (size least greatest : Nat) (digits : List Char) : Option Nat := do
  if digits.length ≠ size then none
  let n ← Decimal.digits? digits
  if least ≤ n ∧ n ≤ greatest then some n else none

def daysIn (year month : Nat) : Nat :=
  if month = 2 then
    if year % 4 = 0 ∧ (year % 100 ≠ 0 ∨ year % 400 = 0) then 29 else 28
  else if month = 4 ∨ month = 6 ∨ month = 9 ∨ month = 11 then 30
  else 31

def isDate (word : List Char) : Bool :=
  match word.splitOn '-' with
  | [y, m, d] =>
    match part? 4 0 9999 y, part? 2 1 12 m with
    | some year, some month => (part? 2 1 (daysIn year month) d).isSome
    | _, _ => false
  | _ => false

def isTime (word : List Char) : Bool :=
  match word.splitOn ':' with
  | [h, m, s] =>
    let seconds := s.takeWhile (· != '.')
    let fraction := s.dropWhile (· != '.')
    (part? 2 0 23 h).isSome && (part? 2 0 59 m).isSome && (part? 2 0 60 seconds).isSome
      && (fraction.isEmpty || (Decimal.digits? fraction.tail).isSome)
  | _ => false

def isZonedTime (word : List Char) : Bool :=
  let isZone (c : Char) : Bool := c == 'Z' || c == 'z' || c == '+' || c == '-'
  let zone := word.dropWhile (!isZone ·)
  isTime (word.takeWhile (!isZone ·)) && match zone with
    | [] | ['Z'] | ['z'] => true
    | sign :: distance =>
      (sign == '+' || sign == '-') && match distance.splitOn ':' with
        | [h, m] => (part? 2 0 23 h).isSome && (part? 2 0 59 m).isSome
        | _ => false

/-- Whether a word is a date, a time of day, or a date and a time with a `T` between them. -/
def isMoment (word : List Char) : Bool :=
  isDate word || isTime word
    || (isDate (word.take 10) && (word[10]? == some 'T' || word[10]? == some 't')
      && isZonedTime (word.drop 11))

def scalar? (word : List Char) : Option Item :=
  if word = "true".toList then some (.boolean true)
  else if word = "false".toList then some (.boolean false)
  else if isMoment word then some (.moment (String.ofList word))
  else
    match integer? word, float? word with
    | some n, _ => some (.integer n)
    | none, some x => some (.float x)
    | none, none => none

end SqlWire.Toml
