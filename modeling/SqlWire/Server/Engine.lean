import SqlWire.Duration
import SqlWire.Text.Ascii
import SqlWire.Value.Basic
import SqlWire.Wire.Backend
import SqlWire.Wire.SqlState

/-! # Scripted engines

The database engine behind a session, as far as a session can tell: each call gets the next of
a given list of answers, and the engine keeps a record of the calls. The answers depend on
nothing but the calls made before.
-/

namespace SqlWire

inductive Cell where
  | value (v : Value)
  | error (message : String)
  deriving DecidableEq, Repr

def Cell.read : Cell → Except String Value
  | value v => .ok v
  | error message => .error message

inductive RowAnswer where
  | row (cells : List Cell)
  | done
  | error (message : String)
  deriving DecidableEq, Repr

structure EngineColumn where
  name : String
  declared : Option String
  deriving DecidableEq, Repr

structure RowSource where
  columns : List EngineColumn
  /-- Why the statement cannot be started. -/
  startError : Option String := none
  /-- What asking for the next row gives, time after time; it is over when none are left. -/
  answers : List RowAnswer
  deriving DecidableEq, Repr

namespace RowSource

/-- A statement with these rows. One time of asking for a row may fail; the times are counted from
zero, and on beyond the last row, where the answer is otherwise that there are no more. -/
def ofRows (columns : List EngineColumn) (rows : List (List Cell)) (startError : Option String)
    (rowError : Option (Nat × String)) : RowSource where
  columns
  startError
  answers :=
    let given := rows.map RowAnswer.row
    match rowError with
    | some (k, message) =>
      (given ++ List.replicate (k - rows.length) RowAnswer.done).take k ++ [.error message]
    | none => given

/-- The values of a row, one for each column. What a row does not have is null. -/
def values (s : RowSource) (cells : List Cell) : Except String (List Value) :=
  let missing := List.replicate (s.columns.length - cells.length) (Cell.value .null)
  ((cells ++ missing).take s.columns.length).mapM Cell.read

end RowSource

inductive EngineAnswer where
  /-- The call fails, and the engine may be in another state afterwards. -/
  | error (message : String) (inTransaction : Option Bool)
  /-- A statement without columns that changes so many rows, or fails when it is run. -/
  | affected (rows : Nat) (runError : Option String)
  | rows (source : RowSource)
  deriving DecidableEq, Repr

inductive EngineCall where
  | busyTimeout (limit : Duration)
  | execute (sql : String)
  | prepare (sql : String)
  /-- A statement without columns was run. -/
  | step (params : List Value)
  /-- A statement with columns was started. -/
  | query (params : List Value)
  /-- A row was asked for, with this answer. -/
  | next (answer : RowAnswer)
  deriving DecidableEq, Repr

structure Engine where
  answers : List EngineAnswer
  inTransaction : Bool := false
  /-- What was asked, newest first. -/
  calls : List EngineCall := []
  deriving DecidableEq, Repr

namespace Engine

def errorText (message : String) : String :=
  "SQLite failure: \x60" ++ message ++ "\x60"

/-- What a session reports for an error of the engine, with a code that the wording tells. -/
def report (message : String) : Diagnostic :=
  let text := errorText message
  let mentions := Text.contains (Text.lower text)
  let code :=
    if mentions "syntax error" || mentions "incomplete input" then SqlState.syntaxError
    else if mentions "no such table" then SqlState.undefinedTable
    else if mentions "no such column" then SqlState.undefinedColumn
    else if mentions "already exists" then SqlState.duplicateTable
    else if mentions "unique constraint failed" then SqlState.uniqueViolation
    else if mentions "not null constraint failed" then SqlState.notNullViolation
    else SqlState.internalError
  .error code text

def note (e : Engine) (call : EngineCall) : Engine :=
  { e with calls := call :: e.calls }

/-- The next answer. When none are left, nothing is changed and nothing fails. -/
def answer (e : Engine) : EngineAnswer × Engine :=
  match e.answers with
  | [] => (.affected 0 none, e)
  | a :: rest => (a, { e with answers := rest })

def execute (sql : String) (e : Engine) : Except String Unit × Engine :=
  match (e.note (.execute sql)).answer with
  | (.error message state, e) =>
    (.error message, { e with inTransaction := state.getD e.inTransaction })
  | (_, e) => (.ok (), { e with inTransaction := !(sql == "COMMIT" || sql == "ROLLBACK") })

inductive Prepared where
  | changing (rows : Nat) (runError : Option String)
  | returning (source : RowSource)
  deriving DecidableEq, Repr

def prepare (sql : String) (e : Engine) : Except String Prepared × Engine :=
  match (e.note (.prepare sql)).answer with
  | (.error message _, e) => (.error message, e)
  | (.affected rows runError, e) => (.ok (.changing rows runError), e)
  | (.rows source, e) =>
    if source.columns.isEmpty then (.ok (.changing 0 source.startError), e)
    else (.ok (.returning source), e)

end Engine

end SqlWire
