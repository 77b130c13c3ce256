import SqlWire.Client.Cursor
import SqlWire.Client.Startup

/-! # A connection with its cursors and transaction scopes

Everything a caller can do with a connection, one operation after the other. Cursors and
scopes have names. A scope begins a transaction and, unless it was ended by a commit or a
rollback, rolls back whatever is open when it is dropped.
-/

namespace SqlWire

inductive Isolation where
  | serverDefault
  | readCommitted
  | repeatableRead
  | serializable
  deriving DecidableEq, Repr

def Isolation.sql : Isolation → String
  | serverDefault => "BEGIN"
  | readCommitted => "BEGIN ISOLATION LEVEL READ COMMITTED"
  | repeatableRead => "BEGIN ISOLATION LEVEL REPEATABLE READ"
  | serializable => "BEGIN ISOLATION LEVEL SERIALIZABLE"

inductive Operation where
  | execute (sql : String) (params : List Value)
  | commit
  | rollback
  | ping
  | close
  | autocommit
  | setAutocommit (on : Bool)
  | statementTimeout
  | setStatementTimeout (limit : Option Duration)
  | parameter (name : String)
  | backendKey
  | beginScope (scope : String) (level : Isolation)
  | executeIn (scope sql : String) (params : List Value)
  | openCursorIn (scope cursor : String)
  | commitScope (scope : String)
  | rollbackScope (scope : String)
  | dropScope (scope : String)
  | openCursor (cursor : String)
  | executeOn (cursor sql : String) (params : List Value)
  | fetch (cursor : String)
  | fetchMany (cursor : String) (n : Nat)
  | fetchAll (cursor : String)
  | visit (cursor : String) (n : Nat)
  | inspect (cursor : String)
  | closeCursor (cursor : String)
  | dropCursor (cursor : String)
  deriving DecidableEq, Repr

inductive Outcome where
  | done
  | failed (e : ClientError)
  /-- There is no cursor or scope of this name. -/
  | absent
  | submitted (s : Submitted)
  | flag (b : Bool)
  | limit (d : Option Duration)
  | parameter (value : Option String)
  | key (k : Option BackendKey)
  | row (r : Option Row)
  | rows (rs : List Row)
  | visits (vs : List Visit)
  deriving DecidableEq, Repr

/-- A connection with its open scopes and its cursors by name, in the order of the names. -/
structure Desk (σ : Type) where
  connection : Connection σ
  scopes : List String := []
  cursors : List (String × Cursor) := []

namespace Desk

variable {σ α : Type} [Channel σ] [Watched σ]

def insertName (name : String) : List String → List String
  | [] => [name]
  | n :: rest =>
    if name = n then n :: rest
    else if name < n then name :: n :: rest
    else n :: insertName name rest

def cursor? (d : Desk σ) (name : String) : Option Cursor :=
  d.cursors.lookup name

def putCursor (d : Desk σ) (name : String) (k : Cursor) : Desk σ :=
  { d with cursors := (name, k) :: d.cursors.filter (·.1 != name) }

def run (d : Desk σ) (action : Action σ α) (outcome : α → Outcome) : Outcome × Desk σ :=
  match action d.connection with
  | (.ok a, c) => (outcome a, { d with connection := c })
  | (.error e, c) => (.failed e, { d with connection := c })

def runCursor (d : Desk σ) (name : String) (action : CursorAction σ α) (outcome : α → Outcome) :
    Outcome × Desk σ :=
  match d.cursor? name with
  | none => (.absent, d)
  | some k =>
    let (result, k, c) := action (k, d.connection)
    let d := { d with connection := c }.putCursor name k
    match result with
    | .ok a => (outcome a, d)
    | .error e => (.failed e, d)

def openCursor (d : Desk σ) (name : String) : Outcome × Desk σ :=
  match Cursor.open? d.connection with
  | (.ok k, c) => (.done, { d with connection := c }.putCursor name k)
  | (.error e, c) => (.failed e, { d with connection := c })

def abandonScope (d : Desk σ) : Desk σ :=
  { d with connection := (Connection.rollback d.connection).2 }

/-- Begins a scope under a name. One that has it already is dropped after that. -/
def beginScope (d : Desk σ) (name : String) (level : Isolation) : Outcome × Desk σ :=
  match Connection.begin level.sql d.connection with
  | (.error e, c) => (.failed e, { d with connection := c })
  | (.ok (), c) =>
    let begun := { d with connection := c }
    if d.scopes.contains name then (.done, begun.abandonScope)
    else (.done, { begun with scopes := insertName name d.scopes })

def endScope (d : Desk σ) (name : String) (action : Action σ Unit) : Outcome × Desk σ :=
  if d.scopes.contains name then
    { d with scopes := d.scopes.filter (· != name) }.run action fun _ => .done
  else (.absent, d)

def perform (d : Desk σ) : Operation → Outcome × Desk σ
  | .execute sql params => d.run (Connection.execute sql params) .submitted
  | .commit => d.run Connection.commit fun _ => .done
  | .rollback => d.run Connection.rollback fun _ => .done
  | .ping => d.run Connection.ping fun _ => .done
  | .close => (.done, { d with connection := d.connection.close })
  | .autocommit => (.flag d.connection.autocommit, d)
  | .setAutocommit on => d.run (Connection.setAutocommit on) fun _ => .done
  | .statementTimeout => (.limit d.connection.statementTimeout, d)
  | .setStatementTimeout limit =>
    (.done, { d with connection := { d.connection with statementTimeout := limit } })
  | .parameter name => (.parameter (d.connection.parameter? name), d)
  | .backendKey => (.key d.connection.backendKey, d)
  | .beginScope scope level => d.beginScope scope level
  | .executeIn scope sql params =>
    if d.scopes.contains scope then d.run (Connection.execute sql params) .submitted
    else (.absent, d)
  | .openCursorIn scope cursor =>
    if d.scopes.contains scope then d.openCursor cursor else (.absent, d)
  | .commitScope scope => d.endScope scope Connection.commit
  | .rollbackScope scope => d.endScope scope Connection.rollback
  | .dropScope scope =>
    if d.scopes.contains scope then
      (.flag true, { d with scopes := d.scopes.filter (· != scope) }.abandonScope)
    else (.flag false, d)
  | .openCursor cursor => d.openCursor cursor
  | .executeOn cursor sql params => d.runCursor cursor (Cursor.execute sql params) fun _ => .done
  | .fetch cursor => d.runCursor cursor Cursor.fetch .row
  | .fetchMany cursor n => d.runCursor cursor (Cursor.fetchMany n) .rows
  | .fetchAll cursor => d.runCursor cursor Cursor.fetchAll .rows
  | .visit cursor n =>
    d.runCursor cursor (fun s => let (visits, s) := Cursor.visit n s; (.ok visits, s)) .visits
  | .inspect cursor => (if (d.cursor? cursor).isSome then .done else .absent, d)
  | .closeCursor cursor =>
    match d.cursor? cursor with
    | none => (.absent, d)
    | some k => (.done, d.putCursor cursor k.close)
  | .dropCursor cursor =>
    (.flag (d.cursor? cursor).isSome, { d with cursors := d.cursors.filter (·.1 != cursor) })

def performAll (d : Desk σ) : List Operation → List Outcome × Desk σ
  | [] => ([], d)
  | operation :: rest =>
    let (outcome, d) := d.perform operation
    let (outcomes, d) := d.performAll rest
    (outcome :: outcomes, d)

/-- Drops the open scopes in the order of their names, then the cursors, and then the
connection, which closes it. -/
def leave (d : Desk σ) : Connection σ :=
  (d.scopes.foldl (fun d _ => d.abandonScope) d).connection.close

end Desk

end SqlWire
