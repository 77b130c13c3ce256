import SqlWire.Client.Channel
import SqlWire.Client.Error
import SqlWire.Sql.Kind
import SqlWire.Value.Format
import SqlWire.Value.Row
import SqlWire.Wire.SqlState

/-! # Connections

A connection sends a request and reads the answer up to the message that says the server is
ready. It keeps the state of the transaction as the server last told it, and hands out the
rows of one result at a time, which stay on the channel until they are asked for.

Reading ends because every message takes bytes off what is at hand: `backlog` counts what is
buffered and what the channel has left.
-/

namespace SqlWire

inductive TransactionState where
  /-- There is none. -/
  | idle
  | active
  /-- It failed and must be rolled back. -/
  | failed
  deriving DecidableEq, Repr

def TransactionState.ofStatus : TransactionStatus → TransactionState
  | .idle => idle
  | .inTransaction => active
  | .failed => failed

inductive ConnectionStatus where
  | ready
  /-- Rows of this result may still be on the channel. -/
  | streaming (id : Nat) (columns : List Column)
  /-- The channel is of no more use. -/
  | broken
  | closed
  deriving DecidableEq, Repr

/-- What a connection shows the channel that it owns. -/
inductive Sign where
  /-- It has come to stand here. -/
  | status (status : ConnectionStatus)
  /-- It has received something, and now buffers this much. -/
  | holds (size : Nat)
  deriving DecidableEq, Repr

/-- A channel that may watch its connection. Whatever it is shown, it has no more to deliver for
that. -/
class Watched (σ : Type) [Channel σ] where
  watch : Sign → σ → σ
  pending_watch : ∀ sign s, Channel.pending (watch sign s) ≤ Channel.pending s

instance (priority := low) Channel.unwatched {σ : Type} [Channel σ] : Watched σ where
  watch _ s := s
  pending_watch _ _ := Nat.le_refl _

@[simp] theorem Watched.watch_unwatched {σ : Type} [Channel σ] (sign : Sign) (s : σ) :
    Channel.unwatched.watch sign s = s := rfl

/-- A point in time until which reads may wait, and the time that was allowed in all. -/
structure Deadline where
  instant : Nat
  allowed : Duration
  deriving DecidableEq, Repr

structure BackendKey where
  processId : Int32
  secretKey : Int32
  deriving DecidableEq, Repr

structure Connection (σ : Type) where
  channel : σ
  /-- What was received and not yet read. -/
  buffer : Bytes := []
  transaction : TransactionState := .idle
  autocommit : Bool := false
  status : ConnectionStatus := .ready
  statementTimeout : Option Duration := none
  /-- What the server said about itself, newest first. -/
  parameters : List (String × String) := []
  backendKey : Option BackendKey := none
  nextResult : Nat := 1
  deadline : Option Deadline := none

abbrev Action (σ : Type) := ExceptT ClientError (StateM (Connection σ))

inductive Submitted where
  /-- It has rows, which are now to be fetched. -/
  | rows (id : Nat) (columns : List Column)
  /-- It has none, and the server called it this. -/
  | finished (tag : Option String)
  deriving DecidableEq, Repr

inductive Pull where
  | row (row : Row)
  | finished (tag : Option String)
  deriving DecidableEq, Repr

/-- What is known of an answer that has not ended: what the server called the statement, and
the error that it reported. -/
structure Answer where
  tag : Option String := none
  error : Option Diagnostic := none
  deriving DecidableEq, Repr

namespace Connection

variable {σ α β : Type}

def isUsable (c : Connection σ) : Bool :=
  match c.status with
  | .ready | .streaming .. => true
  | .broken | .closed => false

def isStreaming (c : Connection σ) : Bool :=
  match c.status with
  | .streaming .. => true
  | _ => false

/-- The connection after a statement failed. Outside a transaction, autocommit leaves nothing
that could have failed. -/
def failTransaction (c : Connection σ) : Connection σ :=
  if c.autocommit ∧ c.transaction = .idle then c else { c with transaction := .failed }

def ensureUsable : Action σ Unit := do
  if !(← get).isUsable then throw .connectionClosed

variable [Channel σ]

def backlog (c : Connection σ) : Nat :=
  Channel.pending c.channel + c.buffer.length

variable [Watched σ]

def become (status : ConnectionStatus) (c : Connection σ) : Connection σ :=
  { c with status, channel := Watched.watch (.status status) c.channel }

@[simp] theorem become_status (status : ConnectionStatus) (c : Connection σ) :
    (c.become status).status = status := rfl

/-- The connection given up: nothing more is sent or read, and an open transaction is lost. -/
def markBroken (c : Connection σ) : Connection σ :=
  if c.isUsable then
    { c.become .broken with
      buffer := []
      transaction := if c.transaction = .active then .failed else c.transaction }
  else c

def applyReady (status : TransactionStatus) (c : Connection σ) : Connection σ :=
  { c.become .ready with transaction := TransactionState.ofStatus status }

def breakWith (e : ClientError) : Action σ α := fun c =>
  (.error e, c.markBroken)

def extend (bytes : Bytes) (c : Connection σ) : Connection σ :=
  let buffer := c.buffer ++ bytes
  { c with buffer, channel := Watched.watch (.holds buffer.length) c.channel }

theorem extend_backlog (bytes : Bytes) (c : Connection σ) :
    (c.extend bytes).backlog ≤ c.backlog + bytes.length := by
  have hw := Watched.pending_watch (.holds (c.buffer ++ bytes).length) c.channel
  unfold backlog extend
  dsimp only
  rw [List.length_append] at *
  omega

def send (messages : List FrontendMessage) : Action σ Unit := fun c =>
  match FrontendMessage.encodeAll messages with
  | .error e => (.error (.ofWire e), c)
  | .ok bytes =>
    match Channel.send bytes c.channel with
    | (none, channel) => (.ok (), { c with channel })
    | (some f, channel) => breakWith (.io f.text) { c with channel }

def takeDelivery (limit : Option Duration) : Action σ Unit := fun c =>
  match Channel.bound limit c.channel with
  | (some f, channel) => breakWith (.io f.text) { c with channel }
  | (none, channel) =>
    match Channel.receive channel with
    | (.chunk bytes, channel) => (.ok (), { c with channel }.extend bytes)
    | (.closed, channel) => breakWith .endOfStream { c with channel }
    | (.failed f, channel) =>
      let e := if f.isTimeout then .timeout ((c.deadline.map Deadline.allowed).getD ⟨0⟩)
        else .io f.text
      breakWith e { c with channel }

def fill : Action σ Unit := fun c =>
  match c.deadline with
  | none => takeDelivery none c
  | some d =>
    let (time, channel) := Channel.now c.channel
    let c := { c with channel }
    if d.instant ≤ time then breakWith (.timeout d.allowed) c
    else takeDelivery (some ⟨d.instant - time⟩) c

theorem takeDelivery_backlog {limit : Option Duration} {c c' : Connection σ}
    (h : takeDelivery limit c = (.ok (), c')) : c'.backlog < c.backlog := by
  unfold takeDelivery at h
  split at h
  · cases h
  · next channel heq =>
    have hb := Channel.pending_bound limit c.channel
    rw [heq] at hb
    dsimp only at hb
    split at h
    · next bytes left hr =>
      cases h
      have hr := Channel.pending_receive hr
      have he := extend_backlog bytes { c with channel := left }
      unfold backlog at *
      dsimp only at he
      omega
    · cases h
    · cases h

theorem fill_backlog {c c' : Connection σ} (h : fill c = (.ok (), c')) :
    c'.backlog < c.backlog := by
  unfold fill at h
  split at h
  · exact takeDelivery_backlog h
  · dsimp only at h
    split at h
    · cases h
    · refine Nat.lt_of_lt_of_le (takeDelivery_backlog h) ?_
      have := Channel.pending_now c.channel
      simp only [backlog]
      omega

/-- The next message that an answer is made of. What the server says about itself is noted,
and notices are dropped. -/
def receive (c : Connection σ) : Except ClientError BackendMessage × Connection σ :=
  match _hn : Frame.next c.buffer with
  | .error e => breakWith (.ofWire e) c
  | .ok none =>
    match _hf : fill c with
    | (.error e, c') => (.error e, c')
    | (.ok (), c') => receive c'
  | .ok (some (frame, rest)) =>
    match BackendMessage.decode frame with
    | .error e => breakWith (.ofWire e) { c with buffer := rest }
    | .ok (.parameterStatus name value) =>
      receive { c with buffer := rest, parameters := (name, value) :: c.parameters }
    | .ok (.noticeResponse _) => receive { c with buffer := rest }
    | .ok m => (.ok m, { c with buffer := rest })
termination_by c.backlog
decreasing_by
  · exact fill_backlog _hf
  · have := Frame.next_shorter _hn
    simp only [backlog]
    omega
  · have := Frame.next_shorter _hn
    simp only [backlog]
    omega

theorem receive_backlog {c c' : Connection σ} {m : BackendMessage}
    (h : receive c = (.ok m, c')) : c'.backlog < c.backlog := by
  fun_induction receive c with
  | case1 => cases h
  | case2 => cases h
  | case3 c _ c1 hf ih => exact Nat.lt_trans (ih h) (fill_backlog hf)
  | case4 => cases h
  | case5 c frame rest hn _ _ _ ih =>
    have := ih h
    have := Frame.next_shorter hn
    simp only [backlog] at *
    omega
  | case6 c frame rest hn _ _ ih =>
    have := ih h
    have := Frame.next_shorter hn
    simp only [backlog] at *
    omega
  | case7 c frame rest hn =>
    cases h
    have := Frame.next_shorter hn
    simp only [backlog]
    omega

/-- What a reader of an answer makes of one message: it waits for more, or it ends with an
action of the connection. -/
inductive Turn (σ α β : Type) where
  | expect (state : α)
  | finish (action : Action σ β)

def converse (react : α → BackendMessage → Turn σ α β) (onFailure : ClientError → Action σ β)
    (state : α) (c : Connection σ) : Except ClientError β × Connection σ :=
  match _h : receive c with
  | (.error e, c') => onFailure e c'
  | (.ok m, c') =>
    match react state m with
    | .expect next => converse react onFailure next c'
    | .finish action => action c'
termination_by c.backlog
decreasing_by exact receive_backlog _h

def surprised (m : BackendMessage) (place : String) : Turn σ α β :=
  .finish (breakWith (.unexpected m place))

def timed (limit : Option Duration) (action : Action σ α) : Action σ α := fun c =>
  let started := match limit with
    | none => { c with deadline := none }
    | some d =>
      let (time, channel) := Channel.now c.channel
      { c with channel, deadline := some ⟨time + d.nanos, d⟩ }
  let (result, c) := action started
  (result, { c with deadline := none })

def timedStatement (action : Action σ α) : Action σ α := fun c =>
  timed c.statementTimeout action c

def settleTurn (error : Option Diagnostic) (m : BackendMessage) :
    Turn σ (Option Diagnostic) Unit :=
  match m with
  | .rowDescription _ | .dataRow _ | .commandComplete _ | .emptyQueryResponse => .expect error
  | .errorResponse report => .expect (some report)
  | .readyForQuery status => .finish do
    modify (applyReady status)
    if error.isSome then modify failTransaction
  | m => surprised m "while draining a result"

def settle : Action σ Unit := do
  if (← get).isStreaming then converse settleTurn throw none

def commandTurn (answer : Answer) (m : BackendMessage) : Turn σ Answer (Option String) :=
  match m with
  | .commandComplete tag => .expect { answer with tag := some tag }
  | .errorResponse report => .expect { answer with error := some report }
  | .readyForQuery status => .finish do
    modify (applyReady status)
    match answer.error with
    | some report => throw (.ofReport report)
    | none => return answer.tag
  | .rowDescription _ | .dataRow _ | .emptyQueryResponse => .expect answer
  | m => surprised m "in command response"

def command (sql : String) : Action σ (Option String) := do
  send [.query sql]
  converse commandTurn throw {}

def openResult (fields : List FieldDescription) : Action σ Submitted := do
  let c ← get
  let columns := fields.map Column.ofField
  set { c.become (.streaming c.nextResult columns) with nextResult := c.nextResult + 1 }
  return .rows c.nextResult columns

def statementTurn (answer : Answer) (m : BackendMessage) : Turn σ Answer Submitted :=
  match m with
  | .parseComplete | .bindComplete | .noData | .emptyQueryResponse => .expect answer
  | .commandComplete tag => .expect { answer with tag := some tag }
  | .errorResponse report => .expect { answer with error := some report }
  | .readyForQuery status => .finish do
    modify (applyReady status)
    match answer.error with
    | some report =>
      modify failTransaction
      throw (.ofReport report)
    | none => return .finished answer.tag
  | .rowDescription fields =>
    if answer.error.isNone then .finish (openResult fields)
    else surprised m "in statement response"
  | m => surprised m "in statement response"

/-- The messages that ask for a statement to be run: a query if it has no parameters, and
otherwise a preparation, a binding, a description and an execution in one. -/
def statementMessages (sql : String) (params : List Value) : List FrontendMessage :=
  if params.isEmpty then [.query sql]
  else [
    .parse "" sql (params.map TypeOid.ofParam),
    .bind "" "" (params.map Value.toParam),
    .describe .portal "",
    .execute "" 0,
    .sync]

def ensureAccepted (kind : SqlKind) : Action σ Unit := do
  if (← get).transaction = .failed ∧ !kind.endsTransaction then throw .transactionAborted

/-- Runs a statement. Without autocommit, a transaction is begun for it if there is none. -/
def execute (sql : String) (params : List Value) : Action σ Submitted := do
  let kind := SqlKind.ofText sql
  ensureUsable
  ensureAccepted kind
  timedStatement do
    settle
    ensureAccepted kind
    let c ← get
    if !c.autocommit ∧ c.transaction = .idle ∧ !kind.isTransactionControl then
      let _ ← command "BEGIN"
    send (statementMessages sql params)
    converse statementTurn throw {}

/-- Ends a result whose channel failed: the statement has failed, and so has its transaction.
That time ran out is said as it is. -/
def failStream (e : ClientError) : Action σ α := fun c =>
  let e := match e with
    | .timeout _ => e
    | _ => .query SqlState.connectionFailure e.message
  (.error e, { c.markBroken with transaction := .failed })

def takeRow (columns : List Column) (values : List (Option Bytes)) : Action σ Pull :=
  if values.length = columns.length then
    return .row ⟨columns, columns.zipWith (fun column raw => Value.ofResult column.type raw) values⟩
  else failStream (.arity values.length columns.length)

/-- One message of a result. Once the first result of several has ended, the others are read
and dropped, but an error among them still counts. -/
def pullTurn (columns : List Column) (answer : Answer) (m : BackendMessage) : Turn σ Answer Pull :=
  let ended := answer.tag.isSome || answer.error.isSome
  let surprise := .finish (failStream (.unexpected m "in result stream"))
  match m with
  | .dataRow values => if ended then .expect answer else .finish (takeRow columns values)
  | .rowDescription _ | .emptyQueryResponse => if ended then .expect answer else surprise
  | .commandComplete tag => .expect { answer with tag := answer.tag <|> some tag }
  | .errorResponse report => .expect { answer with error := some report }
  | .readyForQuery status => .finish do
    modify (applyReady status)
    match answer.error with
    | some report =>
      modify failTransaction
      throw (.ofReport report)
    | none => return .finished answer.tag
  | _ => surprise

/-- The next row of a result. A result that a later request has drained has no more rows. -/
def nextRow (id : Nat) : Action σ Pull := do
  match (← get).status with
  | .streaming current columns =>
    if current = id then timedStatement (converse (pullTurn columns) failStream {})
    else return .finished none
  | .broken | .closed => throw .connectionClosed
  | .ready => return .finished none

def begin (sql : String) : Action σ Unit := do
  ensureUsable
  timedStatement do
    settle
    if (← get).transaction ≠ .idle then throw .transactionOpen
    let _ ← command sql

def leaving (state : TransactionState) (action : Action σ α) : Action σ α := fun c =>
  let (result, c) := action c
  (result, { c with transaction := state })

def failingTo (state : TransactionState) (action : Action σ α) : Action σ α := fun c =>
  match action c with
  | (.ok a, c) => (.ok a, c)
  | (.error e, c) => (.error e, { c with transaction := state })

/-- Commits the transaction that the server is in. One that failed is rolled back, which is an
error. -/
def commitSettled : Action σ Unit := do
  match (← get).transaction with
  | .idle => return ()
  | .failed =>
    let _ ← leaving .idle (command "ROLLBACK")
    throw .transactionAborted
  | .active =>
    let _ ← failingTo .failed (command "COMMIT")

def commit : Action σ Unit := do
  ensureUsable
  let c ← get
  if c.transaction = .idle ∧ !c.isStreaming then return ()
  timedStatement do
    settle
    commitSettled

/-- Rolls the transaction back, if there is one. Whatever comes of it, the connection takes
itself to be in no transaction afterwards. -/
def rollback : Action σ Unit := leaving .idle do
  ensureUsable
  let c ← get
  if c.transaction = .idle ∧ !c.isStreaming then return ()
  timedStatement do
    settle
    if (← get).transaction ≠ .idle then
      let _ ← command "ROLLBACK"

def ping : Action σ Unit := do
  ensureUsable
  timedStatement do
    settle
    let _ ← command ""

/-- Ends the connection, which cannot fail. An open transaction is rolled back first, unless
rows are still to be read: then the server does it when the session ends. -/
def close (c : Connection σ) : Connection σ :=
  if c.status = .closed then c
  else
    let c := if c.status = .ready ∧ c.transaction ≠ .idle
      then (timedStatement (command "ROLLBACK") c).2 else c
    let c := if c.isUsable then (send [.terminate] c).2 else c
    { become .closed { c with channel := (Channel.close c.channel).2 } with
      transaction := .idle
      buffer := [] }

def setAutocommit (on : Bool) : Action σ Unit := do
  ensureUsable
  if (← get).transaction ≠ .idle then throw .autocommitFixed
  modify fun c => { c with autocommit := on }

def parameter? (c : Connection σ) (name : String) : Option String :=
  c.parameters.lookup name

end Connection

end SqlWire
