import SqlWire.Text.Hex
import SqlWire.Toml.Scalar

/-! # Reading a TOML document

A document is a sequence of lines: settings, headers and comments. A reader takes something
off the front of a text, or fails.
-/

namespace SqlWire.Toml

abbrev Scan := StateT (List Char) Option

namespace Scan

def peek : Scan (Option Char) := fun text => some (text.head?, text)

def run (ofClass : Char → Bool) : Scan (List Char) := fun text =>
  some (text.takeWhile ofClass, text.dropWhile ofClass)

def expect (wanted : String) : Scan Unit := fun text =>
  if wanted.toList.isPrefixOf text then some ((), text.drop wanted.length) else none

def accept (wanted : String) : Scan Bool := fun text =>
  if wanted.toList.isPrefixOf text then some (true, text.drop wanted.length)
  else some (false, text)

def blanks : Scan Unit := do
  let _ ← run fun c => c == ' ' || c == '\t'

def isPlain (c : Char) : Bool :=
  c == '\t' || (' ' ≤ c && c != '\x7f')

def comment : Scan Unit := do
  if ← accept "#" then
    let _ ← run isPlain

def lineBreak : Scan Bool := do
  if ← accept "\n" then return true
  accept "\r\n"

def spacing : Nat → Scan Unit
  | 0 => return ()
  | lines + 1 => do
    blanks
    comment
    if ← lineBreak then spacing lines

def codePoint (size : Nat) : Scan Char := fun text => do
  let digits := text.take size
  if digits.length ≠ size then none
  let values ← digits.mapM Text.Hex.value?
  let n := values.foldl (fun n v => 16 * n + v.toNat) 0
  if n.isValidChar then some (Char.ofNat n, text.drop size) else none

def escaped : Scan Char := do
  match ← peek with
  | some 'b' => expect "b"; return '\x08'
  | some 't' => expect "t"; return '\t'
  | some 'n' => expect "n"; return '\n'
  | some 'f' => expect "f"; return '\x0c'
  | some 'r' => expect "r"; return '\r'
  | some '"' => expect "\""; return '"'
  | some '\\' => expect "\\"; return '\\'
  | some 'u' => expect "u"; codePoint 4
  | some 'U' => expect "U"; codePoint 8
  | _ => failure

def basicFrom (read : List Char) : Nat → Scan String
  | 0 => failure
  | size + 1 => do
    let plain ← run fun c => isPlain c && c != '"' && c != '\\'
    let read := plain.reverse ++ read
    if ← accept "\"" then return String.ofList read.reverse
    expect "\\"
    basicFrom ((← escaped) :: read) size

def basic : Scan String := do
  let text ← get
  expect "\""
  basicFrom [] text.length

def literal : Scan String := do
  expect "'"
  let plain ← run fun c => isPlain c && c != '\''
  expect "'"
  return String.ofList plain

def blankLines : Nat → Scan Unit
  | 0 => return ()
  | lines + 1 => do
    blanks
    if ← lineBreak then blankLines lines

/-- Takes off the blanks and line ends behind a backslash at the end of a line, or fails if
there is more on the line. -/
def foldedBreak (lines : Nat) : Scan Unit := do
  blanks
  if !(← lineBreak) then failure
  blankLines lines

/-- How many of the quotes in a run belong to the text when the run ends it: all but three of
at most five. A shorter run does not end the text. -/
def closing? (quotes : Nat) : Option Nat :=
  if quotes < 3 ∨ 5 < quotes then none else some (quotes - 3)

/-- The rest of a text in threefold quotes; `escapes` says whether a backslash is special. The
ends of lines count as single line feeds. -/
def multilineFrom (quote : Char) (escapes : Bool) (read : List Char) : Nat → Scan String
  | 0 => failure
  | size + 1 => do
    let plain ← run fun c => isPlain c && c != quote && !(escapes && c == '\\')
    let read := plain.reverse ++ read
    match ← peek with
    | none => failure
    | some c =>
      if c = quote then
        let quotes ← run (· == quote)
        match closing? quotes.length with
        | some n => return String.ofList (List.replicate n quote ++ read).reverse
        | none =>
          if 5 < quotes.length then failure
          multilineFrom quote escapes (quotes ++ read) size
      else if c = '\\' ∧ escapes then
        expect "\\"
        (do foldedBreak size; multilineFrom quote escapes read size)
          <|> (do multilineFrom quote escapes ((← escaped) :: read) size)
      else if ← lineBreak then multilineFrom quote escapes ('\n' :: read) size
      else failure

def multiline (quote : Char) (escapes : Bool) : Scan String := do
  let text ← get
  expect (String.ofList [quote, quote, quote])
  let _ ← lineBreak
  multilineFrom quote escapes [] text.length

def isBareKey (c : Char) : Bool :=
  c.isAlphanum || c == '_' || c == '-'

def keyPart : Scan String := do
  match ← peek with
  | some '"' => basic
  | some '\'' => literal
  | _ =>
    let bare ← run isBareKey
    if bare.isEmpty then failure
    return String.ofList bare

def moreKeyParts : Nat → Scan (List String)
  | 0 => return []
  | size + 1 => do
    blanks
    if ← accept "." then
      blanks
      let part ← keyPart
      return part :: (← moreKeyParts size)
    else return []

/-- How many brackets there may be around one another, and how many parts a key may have. -/
def maxDepth : Nat := 79

def key : Scan (List String) := do
  blanks
  let text ← get
  let first ← keyPart
  let path := first :: (← moreKeyParts text.length)
  if maxDepth < path.length then failure
  return path

def isScalarChar (c : Char) : Bool :=
  c.isAlphanum || c == '_' || c == '+' || c == '-' || c == '.' || c == ':'

/-- A value without quotes or brackets. A date and a time may have a space between them. -/
def scalar : Scan Item := do
  let word ← run isScalarChar
  let dated : Scan Item := do
    if !isDate word then failure
    expect " "
    let time ← run isScalarChar
    if !isZonedTime time then failure
    return .moment (String.ofList (word ++ ' ' :: time))
  dated <|> liftM (scalar? word)

/-- The values of a list behind those read so far, newest first, up to its bracket. A comma may
stand behind the last one. -/
def arrayFrom (value : Scan Item) (read : List Item) : Nat → Scan Item
  | 0 => failure
  | size + 1 => do
    spacing size
    if ← accept "]" then return .array read.reverse
    let item ← value
    spacing size
    if ← accept "," then arrayFrom value (item :: read) size
    else
      expect "]"
      return .array (item :: read).reverse

def setting (value : Scan Item) : Scan (List String × Item) := do
  let path ← key
  expect "="
  blanks
  return (path, ← value)

def inlineFrom (value : Scan Item) (entries : Entries) : Nat → Scan Item
  | 0 => failure
  | size + 1 => do
    let (path, item) ← setting value
    let entries ← entries.insertDotted item path
    blanks
    if ← accept "," then inlineFrom value entries size
    else
      expect "\x7d"
      return .inline entries

def inlineTable (value : Scan Item) : Scan Item := do
  let text ← get
  blanks
  if ← accept "\x7d" then return .inline []
  inlineFrom value [] text.length

def unbracketed : Scan Item := do
  match ← peek with
  | some '"' => .text <$> (multiline '"' true <|> basic)
  | some '\'' => .text <$> (multiline '\'' false <|> literal)
  | _ => scalar

/-- A value with at most so many brackets around one another. -/
def value : Nat → Scan Item
  | 0 => unbracketed
  | depth + 1 => do
    let text ← get
    match ← peek with
    | some '[' =>
      expect "["
      arrayFrom (value depth) [] text.length
    | some '{' =>
      expect "\x7b"
      inlineTable (value depth)
    | _ => unbracketed

def lineEnd : Scan Unit := do
  blanks
  comment
  if (← peek).isSome then
    if !(← lineBreak) then failure

end Scan

structure Draft where
  root : Entries
  path : List String

open Scan in
def line (draft : Draft) : Scan Draft := do
  blanks
  match ← peek with
  | some '[' =>
    expect "["
    let repeated ← accept "["
    let path ← key
    expect (if repeated then "]]" else "]")
    lineEnd
    let last ← path.getLast?
    let change := if repeated then Entries.openElement last else Entries.openTable last
    return ⟨← Entries.within change path.dropLast draft.root, path⟩
  | some '#' | some '\n' | some '\r' | none =>
    lineEnd
    return draft
  | some _ =>
    let (path, item) ← setting (value maxDepth)
    lineEnd
    return { draft with
      root := ← Entries.within (Entries.insertDotted item path) draft.path draft.root }

def lines (draft : Draft) : Nat → Scan Draft
  | 0 => return draft
  | size + 1 => do
    let draft ← line draft
    if (← Scan.peek).isNone then return draft
    lines draft size

def parse? (s : String) : Option Entries := do
  let text := if s.toList.head? = some '\ufeff' then s.toList.tail else s.toList
  let (draft, rest) ← lines ⟨[], []⟩ (text.length + 1) text
  if rest.isEmpty then some draft.root else none

end SqlWire.Toml
