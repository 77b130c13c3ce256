import SqlWire.Duration
import SqlWire.Settings.ConnectOptions
import SqlWire.Wire.Shown

/-! # Errors of the client

What can go wrong between a client and its server, and every text that says so.
-/

namespace SqlWire

inductive ClientError where
  /-- No connection was made. -/
  | connection (reason : String)
  /-- The connection, or the cursor, is closed or can no longer be used. -/
  | connectionClosed
  /-- The server refused a statement. -/
  | query (code message : String)
  /-- The transaction has failed and takes no more statements. -/
  | transactionAborted
  /-- The operation does not make sense at this point. -/
  | cursorState (reason : String)
  | timeout (after : Duration)
  /-- The server sent what no server should send. -/
  | protocol (reason : String)
  | config (reason : String)
  | lockPoisoned (holder : String)
  | io (reason : String)
  deriving DecidableEq, Repr

namespace ClientError

def message : ClientError → String
  | connection reason => "connection failed: " ++ reason
  | connectionClosed => "connection closed"
  | query code message => "query failed [" ++ code ++ "]: " ++ message
  | transactionAborted => "current transaction is aborted, commands ignored until rollback"
  | cursorState reason => "cursor state error: " ++ reason
  | timeout after => "operation timed out after " ++ after.text
  | protocol reason => "protocol error: " ++ reason
  | config reason => "invalid configuration: " ++ reason
  | lockPoisoned holder => "mutex poisoned in " ++ holder
  | io reason => "transport error: " ++ reason

/-- Whether the error says that its connection is of no more use. -/
def breaksConnection : ClientError → Bool
  | connectionClosed | timeout _ | protocol _ | io _ => true
  | _ => false

def code? : ClientError → Option String
  | query code _ => some code
  | _ => none

def ofReport (report : Diagnostic) : ClientError :=
  query report.code report.message

def ofWire (e : WireError) : ClientError :=
  protocol e.message

def ofConfig (e : ConfigError) : ClientError :=
  config e.message

def unexpected (m : BackendMessage) (place : String) : ClientError :=
  protocol ("unexpected " ++ m.shown ++ " " ++ place)

def arity (values columns : Nat) : ClientError :=
  protocol s!"row has {values} values for {columns} columns"

def endOfStream : ClientError :=
  io "server closed the connection"

def ofHandshake : ClientError → ClientError
  | connection reason => connection reason
  | e => connection ("handshake failed: " ++ e.message)

def passwordMissing : ClientError :=
  connection "server requested a password but none was given"

def md5Requested : ClientError :=
  connection "md5 authentication is not supported"

def authenticationRequested (code : Int32) : ClientError :=
  connection s!"authentication method {code.toInt} is not supported"

def sessionRejected (report : Diagnostic) : ClientError :=
  connection ("server rejected the session [" ++ report.code ++ "]: " ++ report.message)

def transactionOpen : ClientError :=
  cursorState "a transaction is already open"

def autocommitFixed : ClientError :=
  cursorState "cannot change autocommit while a transaction is open"

def nothingExecuted : ClientError :=
  cursorState "fetch called before a statement was executed"

end ClientError

end SqlWire
