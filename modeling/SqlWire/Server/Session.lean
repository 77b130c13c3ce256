import SqlWire.Server.Engine
import SqlWire.Settings.ServerConfig
import SqlWire.Sql.Dialect
import SqlWire.Sql.Kind
import SqlWire.Sql.Statements
import SqlWire.Value.Format
import SqlWire.Wire.Protocol
import SqlWire.Wire.Shown

/-! # Sessions

The server's side of one connection. A session runs the statements of its client on an engine
and keeps its own account of the transaction: a statement that fails inside a transaction
aborts it until the client ends it.

What a session does with one message depends on nothing but its state, so `Session.serve` takes
in whatever bytes have arrived, message by message.
-/

namespace SqlWire

inductive ServerError where
  | io (reason : String)
  | database (reason : String)
  | protocol (e : WireError)
  | config (reason : String)
  deriving DecidableEq, Repr

def ServerError.message : ServerError → String
  | io reason => "server i/o error: " ++ reason
  | database reason => "database error: " ++ reason
  | protocol e => "protocol error: " ++ e.message
  | config reason => "invalid configuration: " ++ reason

inductive Outgoing where
  /-- The bare byte that turns encryption down. -/
  | sslRefusal
  | message (m : BackendMessage)
  deriving DecidableEq, Repr

def Outgoing.bytes : Outgoing → Bytes
  | sslRefusal => [Protocol.sslRefusal]
  | message m => m.encode.toOption.getD []

inductive Describing where
  /-- A description in front of the rows, and nothing if there are none. -/
  | simple
  /-- A description in front of the rows, and word that there are none. -/
  | portal
  /-- No description. -/
  | silent
  deriving DecidableEq, Repr

structure PreparedStatement where
  sql : String
  paramTypes : List TypeOid
  deriving DecidableEq, Repr

structure Portal where
  sql : String
  params : List Value
  described : Bool
  deriving DecidableEq, Repr

inductive Stage where
  /-- Waiting for the client to name itself. -/
  | startup
  /-- Waiting for the password of this user. -/
  | password (user : String) (applicationName : Option String)
  | serving
  | ended (error : Option ServerError)
  deriving DecidableEq, Repr

/-- What a session may note of what it does. -/
inductive Remark where
  /-- This was sent, and so the engine and the account of the transaction were then. -/
  | said (o : Outgoing) (engine : Engine) (inTransaction : Bool)
  /-- The transaction is to be ended with this word, and so the engine was before it. -/
  | ending (word : String) (engine : Engine)
  deriving DecidableEq, Repr

class Journal (η : Type) where
  note : Remark → η → η

instance : Journal Unit where
  note _ _ := ()

structure Session (η : Type := Unit) where
  config : ServerConfig
  processId : Int32
  secretKey : Int32
  engine : Engine
  stage : Stage := .startup
  inTransaction : Bool := false
  aborted : Bool := false
  prepared : Option PreparedStatement := none
  portal : Option Portal := none
  /-- Whether messages are dropped until the client asks for synchronisation. -/
  skipping : Bool := false
  /-- What was sent, newest first. -/
  sent : List Outgoing := []
  /-- How many more writes the channel takes before it fails, if it ever does. -/
  writesLeft : Option Nat := none
  journal : η
  deriving DecidableEq, Repr

/-- The part of a session's work that only its channel can stop. -/
abbrev ServingIn (η : Type) := ExceptT ServerError (StateM (Session η))

/-- The part of a session's work that an error of the statement can stop too. -/
abbrev RunningIn (η : Type) := ExceptT Diagnostic (ServingIn η)

abbrev Serving := ServingIn Unit

abbrev Running := RunningIn Unit

namespace Session

variable {η : Type} [Journal η]

def noting (remark : Remark) (s : Session η) : Session η :=
  { s with journal := Journal.note remark s.journal }

def say (o : Outgoing) (s : Session η) : Session η :=
  noting (.said o s.engine s.inTransaction) { s with sent := o :: s.sent }

def useWrite : ServingIn η Unit := do
  match (← get).writesLeft with
  | none => return ()
  | some 0 => throw (.io "write failed")
  | some (n + 1) => modify fun s => { s with writesLeft := some n }

def flush : ServingIn η Unit := useWrite

def send (m : BackendMessage) : ServingIn η Unit := do
  match m.encode with
  | .error e => throw (.io e.message)
  | .ok _ =>
    useWrite
    modify (say (.message m))

def ask (call : Engine → α × Engine) : ServingIn η α := modifyGet fun s =>
  let (a, engine) := call s.engine
  (a, { s with engine })

/-- Work that no error of a statement can stop, as a part of work that one can. -/
def surely (work : ServingIn η α) : RunningIn η α := ExceptT.lift work

def orReport (result : Except String α) : RunningIn η α :=
  match result with
  | .ok a => return a
  | .error message => throw (Engine.report message)

def status (s : Session η) : TransactionStatus :=
  if s.aborted then .failed else if s.inTransaction then .inTransaction else .idle

def ready : ServingIn η Unit := do
  send (.readyForQuery (← get).status)
  flush

def notice (code message : String) : ServingIn η Unit :=
  send (.noticeResponse (.warning code message))

/-- Ends the open transaction. If the engine fails to, and is left inside it, it is rolled
back. -/
def endTransaction (sql : String) : RunningIn η Unit := do
  modify fun s => s.noting (.ending sql s.engine)
  let result ← surely (ask (Engine.execute sql))
  modify fun s => { s with inTransaction := false, aborted := false }
  if result.toBool = false ∧ (← get).engine.inTransaction then
    let _ ← surely (ask (Engine.execute "ROLLBACK"))
  orReport result

def sendRow (oids : List TypeOid) (values : List Value) : ServingIn η Unit :=
  send (.dataRow (values.zipWith (fun v oid => v.toResult oid) oids))

def noteNext (answer : RowAnswer) : ServingIn η Unit :=
  modify fun s => { s with engine := s.engine.note (.next answer) }

def readCells (source : RowSource) (cells : List Cell) : RunningIn η (List Value) :=
  orReport (source.values cells)

def sendRows (source : RowSource) (oids : List TypeOid) (count : Nat) :
    List RowAnswer → RunningIn η Nat
  | [] => do
    surely (noteNext .done)
    return count
  | answer :: rest => do
    surely (noteNext answer)
    match answer with
    | .done => return count
    | .error message => throw (Engine.report message)
    | .row cells =>
      let values ← readCells source cells
      surely (sendRow oids values)
      sendRows source oids (count + 1) rest

/-- The first row, which settles the types of the columns that declare none; nothing if there
is no row. -/
def firstRow (source : RowSource) : RunningIn η (Option (List Value)) := do
  let answer := source.answers.headD .done
  surely (noteNext answer)
  match answer with
  | .done => return none
  | .error message => throw (Engine.report message)
  | .row cells => return some (← readCells source cells)

def columnOids (columns : List EngineColumn) (first : Option (List Value)) : List TypeOid :=
  columns.zipIdx.map fun (column, i) =>
    match column.declared.bind TypeOid.ofDeclaration? with
    | some oid => oid
    | none => ((first.bind (·[i]?)).map TypeOid.ofStored).getD TypeOid.text

def describeColumns (columns : List EngineColumn) (oids : List TypeOid) : BackendMessage :=
  .rowDescription ((columns.zip oids).zipIdx.map fun ((column, oid), i) =>
    .ofType column.name (UInt16.ofNat (i + 1)).toInt16 oid (TypeOid.size oid))

def streamRows (sql : String) (params : List Value) (describing : Describing)
    (source : RowSource) : RunningIn η Unit := do
  surely (ask fun e => ((), e.note (.query params)))
  if let some message := source.startError then throw (Engine.report message)
  let first ← firstRow source
  let oids := columnOids source.columns first
  if describing ≠ .silent then surely (send (describeColumns source.columns oids))
  if let some values := first then surely (sendRow oids values)
  let count ← sendRows source oids (if first.isSome then 1 else 0) source.answers.tail
  surely (send (.commandComplete (commandTag sql count)))

def runChange (sql : String) (params : List Value) (describing : Describing) (rows : Nat)
    (runError : Option String) : RunningIn η Unit := do
  surely (ask fun e => ((), e.note (.step params)))
  if let some message := runError then throw (Engine.report message)
  if describing = .portal then surely (send .noData)
  surely (send (.commandComplete (commandTag sql rows)))

def streamStatement (sql : String) (params : List Value) (describing : Describing) :
    RunningIn η Unit := do
  match ← orReport (← surely (ask (Engine.prepare sql))) with
  | .returning source => streamRows sql params describing source
  | .changing rows runError => runChange sql params describing rows runError

/-- Takes a statement while the transaction is aborted: one that ends the transaction rolls it
back, and no other is run. -/
def runAborted (kind : SqlKind) : RunningIn η Unit := do
  if !kind.endsTransaction then
    throw (.error SqlState.inFailedTransaction
      "current transaction is aborted, commands ignored until end of transaction block")
  let _ ← surely (endTransaction "ROLLBACK").run
  surely (send (.commandComplete "ROLLBACK"))

def runBegin (sql : String) : RunningIn η Unit := do
  if (← get).inTransaction then
    surely (notice SqlState.activeTransaction "there is already a transaction in progress")
  else
    orReport (← surely (ask (Engine.execute (Sql.engineBegin sql))))
    modify fun s => { s with inTransaction := true }
  surely (send (.commandComplete "BEGIN"))

/-- Ends the transaction with a word that is the engine's statement and the command tag in
one, if there is a transaction. -/
def runEnd (word : String) : RunningIn η Unit := do
  if (← get).inTransaction then endTransaction word
  else surely (notice SqlState.noActiveTransaction "there is no transaction in progress")
  surely (send (.commandComplete word))

def abort (s : Session η) : Session η :=
  { s with aborted := s.aborted || s.inTransaction }

/-- Runs one statement. If it fails inside a transaction, the transaction is aborted. -/
def runStatement (sql : String) (params : List Value) (describing : Describing) :
    RunningIn η Unit := do
  let kind := SqlKind.ofText sql
  if (← get).aborted then runAborted kind
  else
    match kind with
    | .begin => runBegin sql
    | .commit => runEnd "COMMIT"
    | .rollback => runEnd "ROLLBACK"
    | _ => tryCatch (streamStatement sql params describing) fun report => do
      modify abort
      throw report

def runQuery : List String → ServingIn η Unit
  | [] => return ()
  | sql :: rest => do
    match ← (runStatement sql [] .simple).run with
    | .ok () => runQuery rest
    | .error report => send (.errorResponse report)

def simpleQuery (sql : String) : ServingIn η Unit := do
  let statements := Sql.statements sql
  if statements.isEmpty then send .emptyQueryResponse
  else runQuery statements

/-- Reports an error, after which messages are dropped until the client asks for
synchronisation. -/
def extendedError (report : Diagnostic) : ServingIn η Unit := do
  modify fun s => { s.abort with skipping := true }
  send (.errorResponse report)

def bindParams (types : List TypeOid) (params : List (Option Bytes)) :
    Except Value.ParamError (List Value) :=
  params.zipIdx.mapM fun (raw, i) => Value.ofParam (types[i]?.getD TypeOid.unspecified) raw

def bind (params : List (Option Bytes)) : ServingIn η Unit := do
  match (← get).prepared with
  | none =>
    extendedError (.error SqlState.protocolViolation "unnamed prepared statement does not exist")
  | some p =>
    match bindParams p.paramTypes params with
    | .error e => extendedError (.error SqlState.invalidTextRepresentation e.message)
    | .ok values =>
      modify fun s => { s with portal := some ⟨p.sql, values, false⟩ }
      send .bindComplete

def portalMissing : Diagnostic :=
  .error SqlState.protocolViolation "unnamed portal does not exist"

/-- Notes that the rows of the bound statement are to be described. The description itself goes
out with the rows. -/
def describe (target : DescribeTarget) : ServingIn η Unit := do
  match target, (← get).portal with
  | .statement, _ =>
    extendedError (.error SqlState.featureNotSupported
      "describing a prepared statement is not supported")
  | .portal, none => extendedError portalMissing
  | .portal, some p => modify fun s => { s with portal := some { p with described := true } }

def executePortal : ServingIn η Unit := do
  match (← get).portal with
  | none => extendedError portalMissing
  | some p =>
    modify fun s => { s with portal := none }
    if Sql.isEmptyQuery p.sql then send .emptyQueryResponse
    else if 1 < (Sql.statements p.sql).length then
      extendedError (.error SqlState.syntaxError
        "cannot insert multiple commands into a prepared statement")
    else
      let describing := if p.described then Describing.portal else .silent
      match ← (runStatement (Sql.numberedPlaceholders p.sql) p.params describing).run with
      | .ok () => return ()
      | .error report => extendedError report

def handle (m : FrontendMessage) : ServingIn η Bool := do
  if (← get).skipping ∧ m ≠ .sync ∧ m ≠ .terminate then return true
  match m with
  | .query sql =>
    simpleQuery sql
    ready
  | .parse _ sql paramTypes =>
    modify fun s => { s with prepared := some ⟨sql, paramTypes⟩ }
    send .parseComplete
  | .bind _ _ params => bind params
  | .describe target _ => describe target
  | .execute .. => executePortal
  | .sync =>
    modify fun s => { s with skipping := false, portal := none }
    ready
  | .flush => flush
  | .terminate => return false
  | m =>
    send (.errorResponse (.error SqlState.protocolViolation ("unexpected message " ++ m.shown)))
    flush
  return true

def serverVersion : String := "0.1.0"

def welcome (user : String) (applicationName : Option String) : ServingIn η Bool := do
  send .authenticationOk
  send (.parameterStatus "client_encoding" "UTF8")
  send (.parameterStatus "server_version" serverVersion)
  send (.parameterStatus "session_authorization" user)
  if let some name := applicationName then send (.parameterStatus "application_name" name)
  let s ← get
  send (.backendKeyData s.processId s.secretKey)
  ready
  modify fun s => { s with stage := .serving }
  return true

def meet (m : FrontendMessage) : ServingIn η Bool := do
  match m with
  | .sslRequest =>
    useWrite
    modify (say .sslRefusal)
    flush
    return true
  | .startup _ params =>
    let user := (params.lookup "user").getD ""
    let applicationName := params.lookup "application_name"
    if (← get).config.password.isSome then
      send .authenticationCleartextPassword
      flush
      modify fun s => { s with stage := .password user applicationName }
      return true
    else welcome user applicationName
  | _ => return false

/-- Takes in the answer to the request for a password. Anything but a password counts as the
empty one. -/
def checkPassword (user : String) (applicationName : Option String) (m : FrontendMessage) :
    ServingIn η Bool := do
  let given := match m with
    | .password text => text
    | _ => ""
  if (← get).config.password = some given then welcome user applicationName
  else
    send (.errorResponse (.fatal SqlState.invalidPassword
      ("password authentication failed for user \"" ++ user ++ "\"")))
    flush
    return false

def finish (error : Option ServerError) (s : Session η) : Session η :=
  let s := if s.inTransaction then
    { s with engine := (Engine.execute "ROLLBACK" s.engine).2, inTransaction := false } else s
  { s with stage := .ended error }

def after (work : ServingIn η Bool) (s : Session η) : Session η :=
  match work s with
  | (.ok true, s) => s
  | (.ok false, s) => s.finish none
  | (.error e, s) => s.finish (some e)

def takeIn (read : Except WireError FrontendMessage) (s : Session η) : Session η :=
  match read with
  | .error e => s.finish (some (.protocol e))
  | .ok m =>
    match s.stage with
    | .startup => s.after (meet m)
    | .password user applicationName => s.after (checkPassword user applicationName m)
    | .serving => s.after (handle m)
    | .ended _ => s

/-- The first message in a buffer, read as the session's stage asks, and what follows it. -/
def nextMessage (s : Session η) (buffer : Bytes) :
    Except WireError (Option (Except WireError FrontendMessage × Bytes)) :=
  match s.stage with
  | .startup => (Frame.nextUntagged buffer).map
      (Option.map fun (body, rest) => (FrontendMessage.decodeStartup body, rest))
  | .ended _ => .ok none
  | _ => (Frame.next buffer).map
      (Option.map fun (frame, rest) => (FrontendMessage.decode frame, rest))

omit [Journal η] in
theorem nextMessage_shorter {s : Session η} {buffer rest : Bytes}
    {m : Except WireError FrontendMessage}
    (h : s.nextMessage buffer = .ok (some (m, rest))) : rest.length < buffer.length := by
  unfold nextMessage at h
  split at h
  · cases hn : Frame.nextUntagged buffer with
    | error e => simp [hn, Except.map] at h
    | ok found =>
      cases found with
      | none => simp [hn, Except.map] at h
      | some found =>
        simp only [hn, Except.map, Option.map, Except.ok.injEq, Option.some.injEq,
          Prod.mk.injEq] at h
        exact h.2 ▸ Frame.nextUntagged_shorter hn
  · simp at h
  · cases hn : Frame.next buffer with
    | error e => simp [hn, Except.map] at h
    | ok found =>
      cases found with
      | none => simp [hn, Except.map] at h
      | some found =>
        simp only [hn, Except.map, Option.map, Except.ok.injEq, Option.some.injEq,
          Prod.mk.injEq] at h
        exact h.2 ▸ Frame.next_shorter hn

/-- Takes in all the whole messages of a buffer; gives the session and what is left. -/
def serve (s : Session η) (buffer : Bytes) : Session η × Bytes :=
  match _h : s.nextMessage buffer with
  | .error e => (s.finish (some (.protocol e)), buffer)
  | .ok none => (s, buffer)
  | .ok (some (m, rest)) => (s.takeIn m).serve rest
termination_by buffer.length
decreasing_by exact nextMessage_shorter _h

def hangUp (s : Session η) : Session η :=
  match s.stage with
  | .ended _ => s
  | _ => s.finish none

def serveChunks (s : Session η) (buffer : Bytes) : List Bytes → Session η × Bytes
  | [] => (s, buffer)
  | chunk :: rest =>
    let (s, buffer) := s.serve (buffer ++ chunk)
    s.serveChunks buffer rest

def opened (config : ServerConfig) (processId secretKey : Int32) (engine : Engine) : Session where
  config
  processId
  secretKey
  engine := engine.note (.busyTimeout config.busyTimeout)
  journal := ()

/-- A session whose engine cannot be opened, which is over before it begins. -/
def unopened (config : ServerConfig) (processId secretKey : Int32) (engine : Engine)
    (reason : String) : Session where
  config
  processId
  secretKey
  engine
  stage := .ended (some (.database reason))
  journal := ()

def run (s : Session η) (chunks : List Bytes) : Session η :=
  (s.serveChunks [] chunks).1.hangUp

end Session

end SqlWire
