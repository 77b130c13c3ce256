import SqlWire.Value.Column

/-! # Rows -/

namespace SqlWire

structure Row where
  columns : List Column
  values : List Value
  deriving DecidableEq, Repr

namespace Row

def size (row : Row) : Nat := row.values.length

def isEmpty (row : Row) : Bool := row.values.isEmpty

def get? (row : Row) (i : Nat) : Option Value := row.values[i]?

def byName? (row : Row) (name : String) : Option Value := do
  row.values[← row.columns.findIdx? (·.name == name)]?

end Row

end SqlWire
