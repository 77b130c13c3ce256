import SqlWire.Decimal.Integer
import SqlWire.Text.Ascii
import SqlWire.Text.Blank

/-! # Kinds of statements

A statement is known by its first word, read up to white space, in any case and without the
semicolons at its end. Nothing else of the text is looked at, except that a rollback to a
savepoint is no rollback of the transaction.
-/

namespace SqlWire

inductive SqlKind where
  | select
  | insert
  | update
  | delete
  | create
  | drop
  | alter
  | begin
  | commit
  | rollback
  | other
  deriving DecidableEq, Repr

namespace SqlKind

def isTransactionControl : SqlKind → Bool
  | begin | commit | rollback => true
  | _ => false

/-- Statements that a failed transaction still accepts. -/
def endsTransaction : SqlKind → Bool
  | commit | rollback => true
  | _ => false

/-- A word in upper case and without the semicolons at its end. -/
def keyword (word : String) : String :=
  Text.upper (String.ofList (word.toList.reverse.dropWhile (· == ';')).reverse)

def ofWords (words : List String) : SqlKind :=
  match keyword (words.headD "") with
  | "SELECT" | "WITH" | "VALUES" => select
  | "INSERT" => insert
  | "UPDATE" => update
  | "DELETE" => delete
  | "CREATE" => create
  | "DROP" => drop
  | "ALTER" => alter
  | "BEGIN" | "START" => begin
  | "COMMIT" | "END" => commit
  | "ROLLBACK" | "ABORT" =>
    if Text.upper (words.tail.headD "") = "TO" then other else rollback
  | _ => other

def ofText (sql : String) : SqlKind :=
  ofWords (Text.words sql)

end SqlKind

/-- What the server calls a finished statement, with the number of rows that it returned or
changed. -/
def commandTag (sql : String) (rows : Nat) : String :=
  let words := Text.words sql
  let first := SqlKind.keyword (words.headD "")
  match SqlKind.ofWords words with
  | .select => s!"SELECT {rows}"
  | .insert => s!"INSERT 0 {rows}"
  | .update => s!"UPDATE {rows}"
  | .delete => s!"DELETE {rows}"
  | .begin => "BEGIN"
  | .commit => "COMMIT"
  | .rollback => "ROLLBACK"
  | .create | .drop | .alter =>
    match words.tail with
    | [] => first
    | object :: _ => first ++ " " ++ SqlKind.keyword object
  | .other => first

/-- The number of rows at the end of a command tag. -/
def rowsOfTag? (tag : String) : Option Nat :=
  Decimal.natural? Decimal.word64Max
    (String.ofList (tag.toList.reverse.takeWhile (· != ' ')).reverse)

end SqlWire
