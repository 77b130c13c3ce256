import SqlWire.Decimal.Integer
import SqlWire.Duration
import SqlWire.Text.Ascii
import SqlWire.Wire.Shown

/-! # Options of a connection -/

namespace SqlWire

inductive ConfigError where
  | missingEquals (key : String)
  | unterminatedQuote
  | invalidPort (given : String)
  | invalidConnectTimeout (given : String)
  | invalidStatementTimeout (given : String)
  | invalidAutocommit (given : String)
  | unsupportedSslMode (mode : String)
  | unknownOption (key : String)
  deriving DecidableEq, Repr

def ConfigError.message : ConfigError → String
  | missingEquals key => "missing \"=\" after " ++ Text.quoted key
  | unterminatedQuote => "unterminated quoted value"
  | invalidPort given => "invalid port: " ++ Text.quoted given
  | invalidConnectTimeout given => "invalid connect_timeout: " ++ Text.quoted given
  | invalidStatementTimeout given => "invalid statement_timeout: " ++ Text.quoted given
  | invalidAutocommit given => "invalid autocommit: " ++ Text.quoted given
  | unsupportedSslMode mode =>
    "sslmode " ++ Text.quoted mode ++ " is not supported, TLS is unavailable"
  | unknownOption key => "unknown option " ++ Text.quoted key

structure ConnectOptions where
  host : String := "127.0.0.1"
  port : UInt16 := 5432
  user : String := "simpledb"
  password : Option String := none
  database : Option String := none
  applicationName : Option String := some "simpledb_client"
  connectTimeout : Duration := Duration.ofSeconds 30
  /-- How long each statement and each fetch may take; no bound if absent. -/
  statementTimeout : Option Duration := none
  autocommit : Bool := false
  deriving DecidableEq, Repr

namespace ConnectOptions

def switch? (s : String) : Option Bool :=
  match Text.lower s with
  | "1" | "true" | "on" | "yes" => some true
  | "0" | "false" | "off" | "no" => some false
  | _ => none

/-- A number of milliseconds as a timeout, where zero stands for none. -/
def timeoutOfMillis (n : Nat) : Option Duration :=
  if n = 0 then none else some (Duration.ofMillis n)

def set (o : ConnectOptions) (key value : String) : Except ConfigError ConnectOptions :=
  match key with
  | "host" | "hostaddr" => .ok { o with host := value }
  | "port" =>
    match Decimal.natural? 65535 value with
    | some n => .ok { o with port := UInt16.ofNat n }
    | none => .error (.invalidPort value)
  | "user" => .ok { o with user := value }
  | "password" => .ok { o with password := some value }
  | "dbname" | "database" => .ok { o with database := some value }
  | "application_name" => .ok { o with applicationName := some value }
  | "connect_timeout" =>
    match Decimal.natural? Decimal.word64Max value with
    | some n => .ok { o with connectTimeout := Duration.ofSeconds n }
    | none => .error (.invalidConnectTimeout value)
  | "statement_timeout" =>
    match Decimal.natural? Decimal.word64Max value with
    | some n => .ok { o with statementTimeout := timeoutOfMillis n }
    | none => .error (.invalidStatementTimeout value)
  | "autocommit" =>
    match switch? value with
    | some b => .ok { o with autocommit := b }
    | none => .error (.invalidAutocommit value)
  | "sslmode" =>
    if value = "disable" ∨ value = "allow" ∨ value = "prefer" then .ok o
    else .error (.unsupportedSslMode value)
  | _ => .error (.unknownOption key)

def startupParams (o : ConnectOptions) : List (String × String) :=
  ("user", o.user) :: ((o.database.map fun d => ("database", d)).toList
    ++ (o.applicationName.map fun n => ("application_name", n)).toList)

/-- The options for people, without the password. -/
def shown (o : ConnectOptions) : String :=
  Shown.record "ConnectOptions" [
    ("host", Text.quoted o.host),
    ("port", toString o.port.toNat),
    ("user", Text.quoted o.user),
    ("password", Shown.optional (fun _ => Text.quoted "***") o.password),
    ("database", Shown.optional Text.quoted o.database),
    ("application_name", Shown.optional Text.quoted o.applicationName),
    ("connect_timeout", o.connectTimeout.text),
    ("statement_timeout", Shown.optional Duration.text o.statementTimeout),
    ("autocommit", toString o.autocommit)]

end ConnectOptions

end SqlWire
