import SqlWire.Client.Connection

/-! # Cursors

A cursor runs statements on its connection and fetches the rows of the last one, each when it
is asked for. The end of a result, and an error on the way to it, is met once; after that the
cursor is exhausted until it runs another statement.
-/

namespace SqlWire

inductive CursorState where
  /-- Nothing was run, or what was run failed. -/
  | idle
  /-- There may be more rows of this result. -/
  | pending (id : Nat)
  | exhausted
  | closed
  deriving DecidableEq, Repr

structure Cursor where
  state : CursorState := .idle
  /-- The text of the last statement. -/
  query : Option String := none
  description : Option (List Column) := none
  rowsFetched : Nat := 0
  /-- What the server called the statement, once it is known. -/
  tag : Option String := none
  deriving DecidableEq, Repr

abbrev CursorAction (σ : Type) := ExceptT ClientError (StateM (Cursor × Connection σ))

inductive Visit where
  | row (row : Row)
  | failed (e : ClientError)
  | done
  deriving DecidableEq, Repr

namespace Cursor

variable {σ α : Type}

def rowCount? (k : Cursor) : Option Nat :=
  k.tag.bind rowsOfTag?

/-- The cursor closed. What is left of its result is drained by the next request. -/
def close (k : Cursor) : Cursor :=
  if k.state = .closed then k else { k with state := .closed, description := none }

def began (k : Cursor) : Submitted → Cursor
  | .rows id columns => { k with state := .pending id, description := some columns }
  | .finished tag => { k with state := .exhausted, tag }

variable [Channel σ] [Watched σ]

def open? : Action σ Cursor := do
  Connection.ensureUsable
  return {}

def execute (sql : String) (params : List Value) : CursorAction σ Unit := fun (k, c) =>
  if k.state = .closed then (.error .connectionClosed, k, c)
  else
    let k : Cursor := { query := some sql }
    match Connection.execute sql params c with
    | (.error e, c) => (.error e, k, c)
    | (.ok submitted, c) => (.ok (), k.began submitted, c)

def fetch : CursorAction σ (Option Row) := fun (k, c) =>
  match k.state with
  | .closed => (.error .connectionClosed, k, c)
  | .idle => (.error .nothingExecuted, k, c)
  | .exhausted => (if c.isUsable then .ok none else .error .connectionClosed, k, c)
  | .pending id =>
    match Connection.nextRow id c with
    | (.ok (.row row), c) => (.ok (some row), { k with rowsFetched := k.rowsFetched + 1 }, c)
    | (.ok (.finished tag), c) => (.ok none, { k with state := .exhausted, tag }, c)
    | (.error e, c) => (.error e, { k with state := .exhausted }, c)

def fetchOnto (read : List Row) : Nat → CursorAction σ (List Row)
  | 0 => return read.reverse
  | n + 1 => do
    match ← fetch with
    | some row => fetchOnto (row :: read) n
    | none => return read.reverse

def fetchMany (n : Nat) : CursorAction σ (List Row) :=
  fetchOnto [] n

/-- All the rows that are left. There cannot be more of them than bytes to hold them. -/
def fetchAll : CursorAction σ (List Row) := do
  fetchMany ((← get).2.backlog + 1)

/-- `n` steps through the rows, which end at the end of the result and at the first error. The
steps so far are kept newest first. -/
def visitOnto (visited : List Visit) : Nat → Cursor × Connection σ →
    List Visit × Cursor × Connection σ
  | 0, s => (visited.reverse, s)
  | n + 1, s =>
    match fetch s with
    | (.ok (some row), s) => visitOnto (.row row :: visited) n s
    | (.ok none, s) => (visited.reverse ++ List.replicate (n + 1) .done, s)
    | (.error e, s) => (visited.reverse ++ .failed e :: List.replicate n .done, s)

def visit (n : Nat) (s : Cursor × Connection σ) : List Visit × Cursor × Connection σ :=
  visitOnto [] n s

end Cursor

end SqlWire
