import SqlWire.Text.Quoted
import SqlWire.Wire.Backend
import SqlWire.Wire.Frontend

/-! # Messages as error texts name them

Each message is named with its fields, texts in double quotes and absent values as `None`.
-/

namespace SqlWire

namespace Shown

def record (name : String) (fields : List (String × String)) : String :=
  name ++ " \x7b " ++ ", ".intercalate (fields.map fun (key, value) => key ++ ": " ++ value)
    ++ " \x7d"

def holding (name content : String) : String :=
  name ++ "(" ++ content ++ ")"

def items (texts : List String) : String :=
  "[" ++ ", ".intercalate texts ++ "]"

def optional (show_ : α → String) : Option α → String
  | none => "None"
  | some a => holding "Some" (show_ a)

end Shown

open Shown Text

def TransactionStatus.shown : TransactionStatus → String
  | idle => "Idle"
  | inTransaction => "InTransaction"
  | failed => "Failed"

def FieldDescription.shown (f : FieldDescription) : String :=
  record "FieldDescription" [
    ("name", quoted f.name),
    ("table_oid", toString f.tableOid.toNat),
    ("column_id", toString f.columnId.toInt),
    ("type_oid", toString f.typeOid.toNat),
    ("type_size", toString f.typeSize.toInt),
    ("type_modifier", toString f.typeModifier.toInt),
    ("format", toString f.format.toInt)]

def Diagnostic.shown (d : Diagnostic) : String :=
  record "ErrorFields" [
    ("severity", quoted d.severity),
    ("code", quoted d.code),
    ("message", quoted d.message),
    ("detail", optional quoted d.detail)]

def BackendMessage.shown : BackendMessage → String
  | authenticationOk => "AuthenticationOk"
  | authenticationCleartextPassword => "AuthenticationCleartextPassword"
  | authenticationMd5Password a b c d =>
    record "AuthenticationMd5Password"
      [("salt", items ([a, b, c, d].map fun byte => toString byte.toNat))]
  | authenticationOther code => holding "AuthenticationOther" (toString code.toInt)
  | parameterStatus name value =>
    record "ParameterStatus" [("name", quoted name), ("value", quoted value)]
  | backendKeyData processId secretKey =>
    record "BackendKeyData"
      [("process_id", toString processId.toInt), ("secret_key", toString secretKey.toInt)]
  | readyForQuery status => holding "ReadyForQuery" status.shown
  | rowDescription fields =>
    holding "RowDescription" (items (fields.map FieldDescription.shown))
  | dataRow values => holding "DataRow" (items (values.map (optional quotedBytes)))
  | commandComplete tag => holding "CommandComplete" (quoted tag)
  | emptyQueryResponse => "EmptyQueryResponse"
  | errorResponse report => holding "ErrorResponse" report.shown
  | noticeResponse report => holding "NoticeResponse" report.shown
  | parseComplete => "ParseComplete"
  | bindComplete => "BindComplete"
  | closeComplete => "CloseComplete"
  | noData => "NoData"

def DescribeTarget.shown : DescribeTarget → String
  | statement => "Statement"
  | portal => "Portal"

def FrontendMessage.shown : FrontendMessage → String
  | sslRequest => "SslRequest"
  | startup version params =>
    record "Startup" [("version", toString version.toInt),
      ("params", items (params.map fun (name, value) =>
        "(" ++ quoted name ++ ", " ++ quoted value ++ ")"))]
  | password text => record "PasswordMessage" [("password", quoted text)]
  | query sql => record "Query" [("sql", quoted sql)]
  | parse name sql paramTypes =>
    record "Parse" [("name", quoted name), ("sql", quoted sql),
      ("param_types", items (paramTypes.map fun oid => toString oid.toNat))]
  | bind portal statement params =>
    record "Bind" [("portal", quoted portal), ("statement", quoted statement),
      ("params", items (params.map (optional quotedBytes)))]
  | describe target name =>
    record "Describe" [("target", target.shown), ("name", quoted name)]
  | execute portal maxRows =>
    record "Execute" [("portal", quoted portal), ("max_rows", toString maxRows.toInt)]
  | sync => "Sync"
  | flush => "Flush"
  | terminate => "Terminate"

end SqlWire
