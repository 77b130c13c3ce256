import SqlWire.Text.Ascii
import SqlWire.Value.Basic
import SqlWire.Wire.Backend

/-! # Columns

A column's type number decides how its values are read. The number itself comes from the type
that the table declares, or from the first value when none is declared.
-/

namespace SqlWire

inductive ColumnType where
  | integer
  | real
  | text
  | blob
  | boolean
  /-- Values of any other type are read as text. -/
  | unknown (oid : TypeOid)
  deriving DecidableEq, Repr

def ColumnType.ofOid (oid : TypeOid) : ColumnType :=
  if oid = TypeOid.int2 ∨ oid = TypeOid.int4 ∨ oid = TypeOid.int8 then integer
  else if oid = TypeOid.float4 ∨ oid = TypeOid.float8 ∨ oid = TypeOid.numeric then real
  else if oid = TypeOid.text ∨ oid = TypeOid.varchar ∨ oid = TypeOid.bpchar
    ∨ oid = TypeOid.name then text
  else if oid = TypeOid.bytea then blob
  else if oid = TypeOid.bool then boolean
  else unknown oid

structure Column where
  name : String
  typeOid : TypeOid
  type : ColumnType
  deriving DecidableEq, Repr

namespace Column

def ofOid (name : String) (oid : TypeOid) : Column :=
  ⟨name, oid, ColumnType.ofOid oid⟩

def ofField (f : FieldDescription) : Column :=
  ofOid f.name f.typeOid

end Column

namespace TypeOid

/-- The type number for a declared type, by the words in the declaration. A column that
declares no type has none. -/
def ofDeclaration? (declaration : String) : Option TypeOid :=
  let d := Text.upper declaration
  let has := Text.contains d
  let starts (word : String) := word.toList.isPrefixOf d.toList
  if d = "" then none
  else if starts "BOOL" then some bool
  else if has "INT" then some int8
  else if starts "VARCHAR" || has "VARYING" then some varchar
  else if has "CHAR" || has "CLOB" || has "TEXT" then some text
  else if has "BLOB" || has "BYTEA" then some bytea
  else if has "REAL" || has "FLOA" || has "DOUB" then some float8
  else if has "NUMERIC" || has "DECIMAL" then some numeric
  else some text

/-- The type number for a column that declares none and holds this value first. -/
def ofStored : Value → TypeOid
  | .integer _ => int8
  | .real _ => float8
  | .blob _ => bytea
  | .text _ | .null => text

def ofParam : Value → TypeOid
  | .null => unspecified
  | .integer _ => int8
  | .real _ => float8
  | .text _ => text
  | .blob _ => bytea

end TypeOid

end SqlWire
