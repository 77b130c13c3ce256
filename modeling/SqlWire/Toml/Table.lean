import SqlWire.Decimal.Real64

/-! # TOML documents

A document is a table. How a table came to be decides what may still be added to it: a header
may come back to a table that was only implied by a longer header, and a dotted key may go on
in a table that earlier dotted keys made.
-/

namespace SqlWire.Toml

inductive Origin where
  /-- It has a header of its own, or is the document. -/
  | header
  /-- A longer header goes through it. -/
  | implied
  /-- Dotted keys go through it. -/
  | dotted
  deriving DecidableEq, Repr

inductive Item where
  | text (s : String)
  | integer (n : Int)
  | float (x : Real64)
  | boolean (b : Bool)
  /-- A date, a time of day, or both. -/
  | moment (written : String)
  | array (items : List Item)
  /-- A table between braces, to which nothing can be added. -/
  | inline (entries : List (String × Item))
  | table (origin : Origin) (entries : List (String × Item))
  /-- The tables of one repeated header. -/
  | tables (elements : List (List (String × Item)))
  deriving Repr

abbrev Entries := List (String × Item)

namespace Entries

def get? (entries : Entries) (key : String) : Option Item :=
  entries.lookup key

def put (entries : Entries) (key : String) (item : Item) : Entries :=
  if entries.any (·.1 == key) then
    entries.map fun (k, old) => if k = key then (k, item) else (k, old)
  else entries ++ [(key, item)]

/-- Changes the entries of the table at the end of a path of header keys; tables that are
missing on the way are implied ones, and a repeated table stands for its last element. -/
def within (change : Entries → Option Entries) : List String → Entries → Option Entries
  | [], entries => change entries
  | key :: path, entries =>
    match entries.get? key with
    | none => do
      let below ← within change path []
      return entries.put key (.table .implied below)
    | some (.table origin inner) => do
      let below ← within change path inner
      return entries.put key (.table origin below)
    | some (.tables elements) => do
      let last ← elements.getLast?
      let below ← within change path last
      return entries.put key (.tables (elements.dropLast ++ [below]))
    | some _ => none

/-- Whether a dotted key may go through what stands under a key of it, and whether that key may
be the last but one. -/
def admitsDotted (last : Bool) : Option Item → Bool
  | none => true
  | some (.table origin _) => origin == .dotted || (origin == .implied && !last)
  | some (.tables _) => !last
  | some _ => false

/-- Puts an item under a dotted key. No key is given twice, and the tables on the way must not
have a header or braces of their own; the last of them is one that dotted keys made. -/
def insertDotted (item : Item) : List String → Entries → Option Entries
  | [], _ => none
  | [key], entries =>
    if (entries.get? key).isSome then none else some (entries.put key item)
  | key :: next :: path, entries =>
    if !admitsDotted path.isEmpty (entries.get? key) then none
    else
      match entries.get? key with
      | some (.table origin inner) => do
        let below ← insertDotted item (next :: path) inner
        return entries.put key (.table origin below)
      | some (.tables elements) => do
        let last ← elements.getLast?
        let below ← insertDotted item (next :: path) last
        return entries.put key (.tables (elements.dropLast ++ [below]))
      | _ => do
        let below ← insertDotted item (next :: path) []
        return entries.put key (.table .dotted below)

def openTable (key : String) (entries : Entries) : Option Entries :=
  match entries.get? key with
  | none => some (entries.put key (.table .header []))
  | some (.table .implied inner) => some (entries.put key (.table .header inner))
  | some _ => none

def openElement (key : String) (entries : Entries) : Option Entries :=
  match entries.get? key with
  | none => some (entries.put key (.tables [[]]))
  | some (.tables elements) => some (entries.put key (.tables (elements ++ [[]])))
  | some _ => none

end Entries

end SqlWire.Toml
