import SqlWire.Client.Connection

/-! # How a connection begins

The client names itself, gives its password if it is asked for one in clear text, and waits
until the server is ready. If any of this fails there is no connection, and the channel is
closed.
-/

namespace SqlWire.Connection

variable {σ : Type}

def fresh (options : ConnectOptions) (channel : σ) : Connection σ where
  channel
  autocommit := options.autocommit
  statementTimeout := options.statementTimeout

inductive Greeting where
  | givePassword
  | begin
  deriving DecidableEq, Repr

variable [Channel σ] [Watched σ]

def keepKey (key : Option BackendKey) (c : Connection σ) : Connection σ :=
  { c with backendKey := key <|> c.backendKey }

def greetingTurn (key : Option BackendKey) (m : BackendMessage) :
    Turn σ (Option BackendKey) Greeting :=
  match m with
  | .authenticationOk => .expect key
  | .authenticationCleartextPassword => .finish do
    modify (keepKey key)
    return .givePassword
  | .authenticationMd5Password .. => .finish (throw .md5Requested)
  | .authenticationOther code => .finish (throw (.authenticationRequested code))
  | .backendKeyData processId secretKey => .expect (some ⟨processId, secretKey⟩)
  | .errorResponse report => .finish (throw (.sessionRejected report))
  | .readyForQuery _ => .finish do
    modify (keepKey key)
    return .begin
  | m => .finish (throw (.unexpected m "during startup"))

/-- Reads until the server is ready, giving the password as often as it is asked for, which is
at most `times` times. -/
def authenticate (password : Option String) : Nat → Action σ Unit
  | 0 => throw .connectionClosed
  | times + 1 => do
    match ← (converse greetingTurn throw none : Action σ Greeting) with
    | .begin => return ()
    | .givePassword =>
      match password with
      | none => throw .passwordMissing
      | some text =>
        send [.password text]
        authenticate password times

/-- Names the client and reads until the server is ready. No server can ask for a password more
often than there are bytes to ask with. -/
def greet (options : ConnectOptions) : Action σ Unit := do
  send [.startup Protocol.version3 options.startupParams]
  authenticate options.password ((← get).backlog + 1)

def connect (options : ConnectOptions) (channel : σ) :
    Except ClientError Unit × Connection σ :=
  match timed (some options.connectTimeout) (greet options) (fresh options channel) with
  | (.ok (), c) => (.ok (), c)
  | (.error e, c) => (.error e.ofHandshake, c.close)

end SqlWire.Connection
