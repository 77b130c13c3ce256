import SqlWire.Decimal.Reading
import SqlWire.Text.Hex
import SqlWire.Text.Quoted
import SqlWire.Value.Column

/-! # Values on the wire

Every value travels as text, and null as no value at all. The reader of results is tolerant:
what does not fit its column becomes the nearest kind of value that holds it. The reader of
parameters is strict: what does not fit its announced type is refused.
-/

namespace SqlWire.Value

/-- Numbers on the wire read back to the same number; very large and very small ones get an
exponent. -/
def wireLayout : Decimal.Layout := ⟨some (-4, 16), true, "Infinity"⟩

def blobMark : String := "\\x"

def blobText (bytes : Bytes) : String :=
  blobMark ++ Text.Hex.encode bytes

def blobOfText? (s : String) : Option Bytes :=
  match s.toList with
  | '\\' :: 'x' :: digits => Text.Hex.bytesOnto [] digits
  | _ => none

def boolOfText? (s : String) : Option Bool :=
  if s = "t" ∨ s = "true" ∨ s = "1" then some true
  else if s = "f" ∨ s = "false" ∨ s = "0" then some false
  else none

def wireText? : Value → Option String
  | null => none
  | integer n => some (toString n.toInt)
  | real x => some (wireLayout.text x)
  | text s => some s
  | blob bytes => some (blobText bytes)

def toParam (v : Value) : Option Bytes :=
  v.wireText?.map Bytes.ofText

/-- A stored value as a result of a column of this type. In a column of truth values an
integer is `t` or `f`. -/
def toResult (oid : TypeOid) (v : Value) : Option Bytes :=
  match v with
  | integer n =>
    if oid = TypeOid.bool then some (Bytes.ofText (if n = 0 then "f" else "t")) else v.toParam
  | _ => v.toParam

def ofColumnText (type : ColumnType) (s : String) : Value :=
  match type with
  | .integer =>
    match Decimal.int64? s, Decimal.real64? s with
    | some n, _ => integer n
    | none, some x => real x
    | none, none => text s
  | .real => ((Decimal.real64? s).map real).getD (text s)
  | .boolean => ((boolOfText? s).map ofBool).getD (text s)
  | .blob => blob ((blobOfText? s).getD (Bytes.ofText s))
  | .text | .unknown _ => text s

def ofResult (type : ColumnType) : Option Bytes → Value
  | none => null
  | some raw =>
    match Bytes.text? raw with
    | none => blob raw
    | some s => ofColumnText type s

inductive ParamError where
  | notUtf8
  | integer (given : String)
  | float (given : String)
  | boolean (given : String)
  | bytea
  deriving DecidableEq, Repr

def ParamError.message : ParamError → String
  | notUtf8 => "parameter is not valid utf-8"
  | integer given => "invalid integer parameter: " ++ Text.quoted given
  | float given => "invalid float parameter: " ++ Text.quoted given
  | boolean given => "invalid boolean parameter: " ++ Text.quoted given
  | bytea => "invalid bytea parameter"

def ofParamText (oid : TypeOid) (s : String) : Except ParamError Value :=
  match ColumnType.ofOid oid with
  | .integer => ((Decimal.int64? s).map integer).elim (.error (.integer s)) .ok
  | .real => ((Decimal.real64? s).map real).elim (.error (.float s)) .ok
  | .boolean => ((boolOfText? s).map ofBool).elim (.error (.boolean s)) .ok
  | .blob => ((blobOfText? s).map blob).elim (.error .bytea) .ok
  | .text | .unknown _ => .ok (text s)

def ofParam (oid : TypeOid) : Option Bytes → Except ParamError Value
  | none => .ok null
  | some raw =>
    match Bytes.text? raw with
    | none => .error .notUtf8
    | some s => ofParamText oid s

end SqlWire.Value
