import SqlWire.Text.Ascii
import SqlWire.Text.Blank

/-! # Spelling for the engine

The engine numbers its placeholders behind a question mark and has its own words for how a
transaction begins.
-/

namespace SqlWire.Sql

def quoteAfter (quote : Option Char) (c : Char) : Option Char :=
  match quote with
  | some q => if c = q then none else some q
  | none => if c = '\'' ∨ c = '"' then some c else none

/-- Writes `?` for a `$` in front of a digit wherever no quote is open. The text written so far
stands in `written`, newest character first. -/
def numberedOnto (written : List Char) (quote : Option Char) : List Char → List Char
  | [] => written.reverse
  | c :: rest =>
    if quote = none ∧ c = '$' ∧ rest.head?.any Char.isDigit then
      numberedOnto ('?' :: written) none rest
    else numberedOnto (c :: written) (quoteAfter quote c) rest

def numberedPlaceholders (sql : String) : String :=
  String.ofList (numberedOnto [] none sql.toList)

/-- The engine's statement for one that begins a transaction. Its own three modes are kept as
they are written; an isolation clause is dropped, except that the serializable level locks the
database at once. -/
def engineBegin (sql : String) : String :=
  let upper := Text.upper sql
  let words := ((Text.parts (fun c => Text.isBlank c || c == ';') upper.toList).map
    String.ofList).tail.filter fun w => !(w == "TRANSACTION" || w == "WORK")
  if words.head?.any fun w => w == "DEFERRED" || w == "IMMEDIATE" || w == "EXCLUSIVE" then sql
  else if Text.contains upper "SERIALIZABLE" then "BEGIN IMMEDIATE"
  else "BEGIN"

end SqlWire.Sql
