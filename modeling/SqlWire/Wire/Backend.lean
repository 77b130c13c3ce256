import SqlWire.Wire.Frame
import SqlWire.Wire.Reader
import SqlWire.Wire.TypeOid

/-! # Messages of the server

The body of each message and how it is read back. A count is written as its low 16 bits and
read as a signed number, of which a negative one announces nothing; what follows the last
field of a body is ignored.
-/

namespace SqlWire

inductive TransactionStatus where
  | idle
  | inTransaction
  | failed
  deriving DecidableEq, Repr

namespace TransactionStatus

def toByte : TransactionStatus → UInt8
  | idle => 'I'.toUInt8
  | inTransaction => 'T'.toUInt8
  | failed => 'E'.toUInt8

def ofByte (b : UInt8) : Except WireError TransactionStatus :=
  match Char.ofUInt8 b with
  | 'I' => .ok idle
  | 'T' => .ok inTransaction
  | 'E' => .ok failed
  | _ => .error (.invalidValue ("transaction status " ++ WireError.byteText b))

end TransactionStatus

structure FieldDescription where
  name : String
  tableOid : UInt32
  columnId : Int16
  typeOid : TypeOid
  typeSize : Int16
  typeModifier : Int32
  format : Int16
  deriving DecidableEq, Repr

namespace FieldDescription

/-- A column in text format that belongs to no table. -/
def ofType (name : String) (columnId : Int16) (typeOid : TypeOid) (typeSize : Int16) :
    FieldDescription :=
  ⟨name, 0, columnId, typeOid, typeSize, -1, 0⟩

def encode (f : FieldDescription) : Except WireError Bytes := do
  let name ← Bytes.ofTerminated f.name
  return name ++ (Bytes.ofWord32 f.tableOid ++ Bytes.ofWord16 f.columnId.toUInt16
    ++ Bytes.ofWord32 f.typeOid ++ Bytes.ofWord16 f.typeSize.toUInt16
    ++ Bytes.ofWord32 f.typeModifier.toUInt32 ++ Bytes.ofWord16 f.format.toUInt16)

def reader : Reader FieldDescription := do
  let name ← Reader.text "field name"
  let tableOid ← Reader.word32 "table oid"
  let columnId ← Reader.int16 "column id"
  let typeOid ← Reader.word32 "type oid"
  let typeSize ← Reader.int16 "type size"
  let typeModifier ← Reader.int32 "type modifier"
  let format ← Reader.int16 "format code"
  return { name, tableOid, columnId, typeOid, typeSize, typeModifier, format }

end FieldDescription

structure Diagnostic where
  severity : String
  code : String
  message : String
  detail : Option String
  deriving DecidableEq, Repr

namespace Diagnostic

def empty : Diagnostic := ⟨"", "", "", none⟩

def error (code message : String) : Diagnostic := ⟨"ERROR", code, message, none⟩

def fatal (code message : String) : Diagnostic := ⟨"FATAL", code, message, none⟩

def warning (code message : String) : Diagnostic := ⟨"WARNING", code, message, none⟩

/-- A field is one letter and a text, and a zero byte ends the list of fields. -/
def encode (d : Diagnostic) : Except WireError Bytes := do
  let severity ← Bytes.ofTerminated d.severity
  let code ← Bytes.ofTerminated d.code
  let message ← Bytes.ofTerminated d.message
  let detail ← match d.detail with
    | none => pure []
    | some text => ('D'.toUInt8 :: ·) <$> Bytes.ofTerminated text
  return 'S'.toUInt8 :: severity ++ ('C'.toUInt8 :: code ++ ('M'.toUInt8 :: message
    ++ (detail ++ [0])))

/-- The report with one more field taken in; fields of other kinds are not kept. -/
def put (d : Diagnostic) (kind : UInt8) (value : String) : Diagnostic :=
  match Char.ofUInt8 kind with
  | 'S' => { d with severity := value }
  | 'C' => { d with code := value }
  | 'M' => { d with message := value }
  | 'D' => { d with detail := some value }
  | _ => d

def readOnto (d : Diagnostic) (body : Bytes) : Except WireError Diagnostic × Bytes :=
  match body with
  | [] => (.error (.truncated "error field type"), [])
  | kind :: rest =>
    if kind = 0 then (.ok d, rest)
    else
      match _h : Reader.text "error field" rest with
      | (.ok value, left) => readOnto (d.put kind value) left
      | (.error e, left) => (.error e, left)
termination_by body.length
decreasing_by
  have := Reader.text_length_le "error field" rest
  rw [_h] at this
  exact Nat.lt_succ_of_le this

def reader : Reader Diagnostic := readOnto empty

end Diagnostic

inductive BackendMessage where
  | authenticationOk
  | authenticationCleartextPassword
  | authenticationMd5Password (s0 s1 s2 s3 : UInt8)
  /-- A request for any other way to authenticate. -/
  | authenticationOther (code : Int32)
  | parameterStatus (name value : String)
  | backendKeyData (processId secretKey : Int32)
  | readyForQuery (status : TransactionStatus)
  | rowDescription (fields : List FieldDescription)
  | dataRow (values : List (Option Bytes))
  | commandComplete (tag : String)
  | emptyQueryResponse
  | errorResponse (report : Diagnostic)
  | noticeResponse (report : Diagnostic)
  | parseComplete
  | bindComplete
  | closeComplete
  | noData
  deriving DecidableEq, Repr

namespace BackendMessage

def tag : BackendMessage → Char
  | authenticationOk | authenticationCleartextPassword => 'R'
  | authenticationMd5Password .. | authenticationOther _ => 'R'
  | parameterStatus .. => 'S'
  | backendKeyData .. => 'K'
  | readyForQuery _ => 'Z'
  | rowDescription _ => 'T'
  | dataRow _ => 'D'
  | commandComplete _ => 'C'
  | emptyQueryResponse => 'I'
  | errorResponse _ => 'E'
  | noticeResponse _ => 'N'
  | parseComplete => '1'
  | bindComplete => '2'
  | closeComplete => '3'
  | noData => 'n'

def body : BackendMessage → Except WireError Bytes
  | authenticationOk => .ok (Bytes.ofWord32 0)
  | authenticationCleartextPassword => .ok (Bytes.ofWord32 3)
  | authenticationMd5Password a b c d => .ok (Bytes.ofWord32 5 ++ [a, b, c, d])
  | authenticationOther code => .ok (Bytes.ofWord32 code.toUInt32)
  | parameterStatus name value => do
    let name ← Bytes.ofTerminated name
    let value ← Bytes.ofTerminated value
    return name ++ value
  | backendKeyData processId secretKey =>
    .ok (Bytes.ofWord32 processId.toUInt32 ++ Bytes.ofWord32 secretKey.toUInt32)
  | readyForQuery status => .ok [status.toByte]
  | rowDescription fields => do
    let encoded ← fields.mapM FieldDescription.encode
    return Bytes.ofCount fields.length ++ encoded.flatten
  | dataRow values => .ok (Bytes.ofCount values.length ++ values.flatMap Bytes.ofNullable)
  | commandComplete tag => Bytes.ofTerminated tag
  | errorResponse report | noticeResponse report => report.encode
  | emptyQueryResponse | parseComplete | bindComplete | closeComplete | noData => .ok []

def encode (m : BackendMessage) : Except WireError Bytes := do
  Frame.tagged m.tag.toUInt8 (← m.body)

def authenticationReader : Reader BackendMessage := do
  let code ← Reader.int32 "authentication code"
  if code = 0 then return authenticationOk
  else if code = 3 then return authenticationCleartextPassword
  else if code = 5 then
    let a ← Reader.byte "md5 salt"
    let b ← Reader.byte "md5 salt"
    let c ← Reader.byte "md5 salt"
    let d ← Reader.byte "md5 salt"
    return authenticationMd5Password a b c d
  else return authenticationOther code

def reader (tag : UInt8) : Reader BackendMessage :=
  match Char.ofUInt8 tag with
  | 'R' => authenticationReader
  | 'S' => do
    let name ← Reader.text "parameter name"
    let value ← Reader.text "parameter value"
    return parameterStatus name value
  | 'K' => do
    let processId ← Reader.int32 "process id"
    let secretKey ← Reader.int32 "secret key"
    return backendKeyData processId secretKey
  | 'Z' => do
    let status ← Reader.byte "transaction status"
    return readyForQuery (← TransactionStatus.ofByte status)
  | 'T' => do
    let count ← Reader.int16 "field count"
    return rowDescription (← Reader.times count.toInt.toNat FieldDescription.reader)
  | 'D' => do
    let count ← Reader.int16 "column count"
    return dataRow (← Reader.times count.toInt.toNat (Reader.nullable "column value"))
  | 'C' => return commandComplete (← Reader.text "command tag")
  | 'I' => return emptyQueryResponse
  | 'E' => return errorResponse (← Diagnostic.reader)
  | 'N' => return noticeResponse (← Diagnostic.reader)
  | '1' => return parseComplete
  | '2' => return bindComplete
  | '3' => return closeComplete
  | 'n' => return noData
  | _ => throw (.unknownTag tag)

def decode (frame : Frame) : Except WireError BackendMessage :=
  (reader frame.tag).read frame.body

end BackendMessage

end SqlWire
