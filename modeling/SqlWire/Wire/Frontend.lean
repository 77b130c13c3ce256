import SqlWire.Wire.Frame
import SqlWire.Wire.Protocol
import SqlWire.Wire.Reader
import SqlWire.Wire.TypeOid

/-! # Messages of the client

The two messages that may open a session travel without a tag and have a reader of their own.
Parameters and results are always in text format, and a message that asks for another format
is refused.
-/

namespace SqlWire

inductive DescribeTarget where
  | statement
  | portal
  deriving DecidableEq, Repr

inductive FrontendMessage where
  | sslRequest
  | startup (version : Int32) (params : List (String × String))
  | password (password : String)
  | query (sql : String)
  | parse (name sql : String) (paramTypes : List TypeOid)
  | bind (portal statement : String) (params : List (Option Bytes))
  | describe (target : DescribeTarget) (name : String)
  | execute (portal : String) (maxRows : Int32)
  | sync
  | flush
  | terminate
  deriving DecidableEq, Repr

namespace FrontendMessage

def tag? : FrontendMessage → Option Char
  | sslRequest => none
  | startup .. => none
  | password _ => some 'p'
  | query _ => some 'Q'
  | parse .. => some 'P'
  | bind .. => some 'B'
  | describe .. => some 'D'
  | execute .. => some 'E'
  | sync => some 'S'
  | flush => some 'H'
  | terminate => some 'X'

def encodeParam (param : String × String) : Except WireError Bytes := do
  let name ← Bytes.ofTerminated param.1
  let value ← Bytes.ofTerminated param.2
  return name ++ value

def body : FrontendMessage → Except WireError Bytes
  | sslRequest => .ok (Bytes.ofWord32 Protocol.sslRequestCode.toUInt32)
  | startup version params => do
    let encoded ← params.mapM encodeParam
    return Bytes.ofWord32 version.toUInt32 ++ (encoded.flatten ++ [0])
  | password text => Bytes.ofTerminated text
  | query sql => Bytes.ofTerminated sql
  | parse name sql paramTypes => do
    let name ← Bytes.ofTerminated name
    let sql ← Bytes.ofTerminated sql
    return name ++ (sql ++ (Bytes.ofCount paramTypes.length ++ paramTypes.flatMap Bytes.ofWord32))
  | bind portal statement params => do
    let portal ← Bytes.ofTerminated portal
    let statement ← Bytes.ofTerminated statement
    return portal ++ (statement ++ (Bytes.ofCount 0 ++ (Bytes.ofCount params.length
      ++ (params.flatMap Bytes.ofNullable ++ Bytes.ofCount 0))))
  | describe target name => do
    let name ← Bytes.ofTerminated name
    return (match target with
      | .statement => 'S'.toUInt8
      | .portal => 'P'.toUInt8) :: name
  | execute portal maxRows => do
    let portal ← Bytes.ofTerminated portal
    return portal ++ Bytes.ofWord32 maxRows.toUInt32
  | sync | flush | terminate => .ok []

def encode (m : FrontendMessage) : Except WireError Bytes := do
  let body ← m.body
  match m.tag? with
  | none => Frame.untagged body
  | some tag => Frame.tagged tag.toUInt8 body

def encodeAll (messages : List FrontendMessage) : Except WireError Bytes :=
  List.flatten <$> messages.mapM encode

/-- Reads startup parameters behind those read so far, which are kept newest first. The empty
name ends them. -/
def paramsOnto (read : List (String × String)) (body : Bytes) :
    Except WireError (List (String × String)) :=
  match _h : Reader.text "startup parameter name" body with
  | (.error e, _) => .error e
  | (.ok name, rest) =>
    if name = "" then .ok read.reverse
    else
      match _h' : Reader.text "startup parameter value" rest with
      | (.error e, _) => .error e
      | (.ok value, left) => paramsOnto ((name, value) :: read) left
termination_by body.length
decreasing_by
  have first := Reader.text_length_lt _h
  have second := Reader.text_length_lt _h'
  omega

def decodeStartup (body : Bytes) : Except WireError FrontendMessage :=
  match Reader.int32 "protocol version" body with
  | (.error e, _) => .error e
  | (.ok version, rest) =>
    if version = Protocol.sslRequestCode then .ok sslRequest
    else if version = Protocol.version3 then (startup version ·) <$> paramsOnto [] rest
    else .error (.unsupportedVersion version)

/-- Reads `n` format codes, each of which must ask for text. -/
def textFormats (field refusal : String) : Nat → Reader Unit
  | 0 => return ()
  | n + 1 => do
    let format ← Reader.int16 field
    if format ≠ 0 then throw (.invalidValue refusal)
    textFormats field refusal n

def bindReader : Reader FrontendMessage := do
  let portal ← Reader.text "portal name"
  let statement ← Reader.text "statement name"
  let formats ← Reader.int16 "parameter format count"
  textFormats "parameter format" "binary parameters are not supported" formats.toInt.toNat
  let count ← Reader.int16 "parameter count"
  let params ← Reader.times count.toInt.toNat (Reader.nullable "parameter value")
  let resultFormats ← Reader.int16 "result format count"
  textFormats "result format" "binary results are not supported" resultFormats.toInt.toNat
  return bind portal statement params

def describeReader : Reader FrontendMessage := do
  let kind ← Reader.byte "describe target"
  let target ← match Char.ofUInt8 kind with
    | 'S' => pure DescribeTarget.statement
    | 'P' => pure DescribeTarget.portal
    | _ => throw (.invalidValue ("describe target " ++ WireError.byteText kind))
  return describe target (← Reader.text "describe name")

def reader (tag : UInt8) : Reader FrontendMessage :=
  match Char.ofUInt8 tag with
  | 'p' => return password (← Reader.text "password")
  | 'Q' => return query (← Reader.text "query string")
  | 'P' => do
    let name ← Reader.text "statement name"
    let sql ← Reader.text "query string"
    let count ← Reader.int16 "parameter type count"
    return parse name sql (← Reader.times count.toInt.toNat (Reader.word32 "parameter type"))
  | 'B' => bindReader
  | 'D' => describeReader
  | 'E' => do
    let portal ← Reader.text "portal name"
    let maxRows ← Reader.int32 "row limit"
    return execute portal maxRows
  | 'S' => return sync
  | 'H' => return flush
  | 'X' => return terminate
  | _ => throw (.unknownTag tag)

def decode (frame : Frame) : Except WireError FrontendMessage :=
  (reader frame.tag).read frame.body

end FrontendMessage

end SqlWire
