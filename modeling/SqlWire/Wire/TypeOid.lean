/-! # Numbers of the column and parameter types -/

namespace SqlWire

abbrev TypeOid := UInt32

namespace TypeOid

def bool : TypeOid := 16
def bytea : TypeOid := 17
def name : TypeOid := 19
def int8 : TypeOid := 20
def int2 : TypeOid := 21
def int4 : TypeOid := 23
def text : TypeOid := 25
def float4 : TypeOid := 700
def float8 : TypeOid := 701
def unknown : TypeOid := 705
def bpchar : TypeOid := 1042
def varchar : TypeOid := 1043
def numeric : TypeOid := 1700

def unspecified : TypeOid := 0

/-- The width in bytes of a type of fixed width, and -1 for any other. -/
def size (oid : TypeOid) : Int16 :=
  if oid = bool then 1
  else if oid = int2 then 2
  else if oid = int4 ∨ oid = float4 then 4
  else if oid = int8 ∨ oid = float8 then 8
  else -1

end TypeOid

end SqlWire
