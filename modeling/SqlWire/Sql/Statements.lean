import SqlWire.Text.Blank

/-! # Statements of a query text

A semicolon ends a statement unless it stands in quotes or in a comment. A scan of the text
knows at each character whether it is in code, in quotes or in a comment.
-/

namespace SqlWire.Sql

inductive Zone where
  | code
  | quoted (quote : Char)
  | comment
  deriving DecidableEq, Repr

/-- The zone behind a character, by the zone in front of it and the character that follows. -/
def Zone.after (zone : Zone) (c : Char) (following : Option Char) : Zone :=
  match zone with
  | comment => if c = '\n' then code else comment
  | quoted q => if c = q then code else quoted q
  | code =>
    if c = '\'' ∨ c = '"' then quoted c
    else if c = '-' ∧ following = some '-' then comment
    else code

/-- Cuts a text at the semicolons in code. The piece that is being read stands in `piece`,
newest character first. -/
def piecesFrom (zone : Zone) (piece : List Char) : List Char → List (List Char)
  | [] => [piece.reverse]
  | c :: rest =>
    if zone = .code ∧ c = ';' then piece.reverse :: piecesFrom .code [] rest
    else piecesFrom (zone.after c rest.head?) (c :: piece) rest

def pieces (text : List Char) : List (List Char) :=
  piecesFrom .code [] text

def isSubstance (c : Char) : Bool :=
  !(Text.isBlank c || c == ';')

/-- Whether a text has anything besides white space, semicolons and comments. A comment runs
from two hyphens to the end of the line, whatever is in front of them. -/
def hasTextFrom (inComment : Bool) : List Char → Bool
  | [] => false
  | c :: rest =>
    if inComment then hasTextFrom (c != '\n') rest
    else if c = '-' ∧ rest.head? = some '-' then hasTextFrom true rest
    else isSubstance c || hasTextFrom false rest

def hasText (text : List Char) : Bool :=
  hasTextFrom false text

/-- Whether a text has nothing besides white space and semicolons. -/
def isEmptyQuery (sql : String) : Bool :=
  !sql.toList.any isSubstance

def hasStatementText (sql : String) : Bool :=
  hasText sql.toList

/-- The statements of a query text, each as it is written. -/
def statements (sql : String) : List String :=
  ((pieces sql.toList).filter hasText).map String.ofList

end SqlWire.Sql
