import SqlWire.Bytes
import SqlWire.Decimal.Layout

/-! # Values

What a row holds, what a parameter carries and what the engine stores: one type for all three.
-/

namespace SqlWire

inductive Value where
  | null
  | integer (n : Int64)
  | real (x : Real64)
  | text (s : String)
  | blob (bytes : Bytes)
  deriving DecidableEq, Repr

namespace Value

def isNull : Value → Bool
  | null => true
  | _ => false

def integer? : Value → Option Int64
  | integer n => some n
  | _ => none

/-- A number as a real; an integer is taken to the nearest one. -/
def real? : Value → Option Real64
  | real x => some x
  | integer n => some (Real64.ofInt n.toInt)
  | _ => none

def text? : Value → Option String
  | text s => some s
  | _ => none

def blob? : Value → Option Bytes
  | blob bytes => some bytes
  | _ => none

def ofBool (b : Bool) : Value := integer (if b then 1 else 0)

def ofInt32 (n : Int32) : Value := integer n.toInt64

def ofOption (make : α → Value) : Option α → Value
  | none => null
  | some a => make a

/-- Numbers for people: no exponent, and no point after a whole number. -/
def plainLayout : Decimal.Layout := ⟨none, false, "inf"⟩

def display : Value → String
  | null => "NULL"
  | integer n => toString n.toInt
  | real x => plainLayout.text x
  | text s => s
  | blob bytes => s!"<{bytes.length} bytes>"

end Value

end SqlWire
