import SqlWire.Decimal.Integer

/-! # Addresses to listen on

An address of either version of the Internet protocol with a port. Version 6 stands in
brackets, may leave out one run of zero groups and may end in version 4 form; it is written
with its first longest run of zero groups left out.
-/

namespace SqlWire

inductive SocketAddress where
  | v4 (a b c d : Nat) (port : Nat)
  /-- Eight groups of 16 bits, and the number of the interface, zero for none. -/
  | v6 (groups : List Nat) (scope port : Nat)
  deriving DecidableEq, Repr

namespace SocketAddress

abbrev Scan := StateT (List Char) Option

def char (c : Char) : Scan Unit := fun text =>
  match text with
  | d :: rest => if c = d then some ((), rest) else none
  | [] => none

def digitOf (c : Char) : Nat :=
  if c.isDigit then c.toNat - 48 else (c.toLower.toNat - 97) + 10

/-- Takes off all the digits there are, which must spell a number that is small enough. -/
def number (radix limit : Nat) (longest : Option Nat) (leadingZeros : Bool) : Scan Nat :=
  fun text =>
  let isDigit (c : Char) : Bool := c.isDigit || (radix == 16 && 'a' ≤ c.toLower && c.toLower ≤ 'f')
  let digits := text.takeWhile isDigit
  let n := digits.foldl (fun n c => radix * n + digitOf c) 0
  if digits.isEmpty || longest.any (· < digits.length) || limit < n then none
  else if !leadingZeros && digits.head? == some '0' && 1 < digits.length then none
  else some (n, text.dropWhile isDigit)

def quad : Scan (Nat × Nat × Nat × Nat) := do
  let a ← octet
  char '.'
  let b ← octet
  char '.'
  let c ← octet
  char '.'
  let d ← octet
  return (a, b, c, d)
where
  octet : Scan Nat := number 10 255 (some 3) false

/-- Groups between colons, at most `room` of them behind `read`; says too whether the last two
were in version 4 form. -/
def groups (read : List Nat) : Nat → Scan (List Nat × Bool)
  | 0 => return (read.reverse, false)
  | room + 1 =>
    let separator : Scan Unit := if read.isEmpty then return () else char ':'
    let embedded : Scan (List Nat × Bool) := do
      if room = 0 then failure
      separator
      let (a, b, c, d) ← quad
      return (((256 * c + d) :: (256 * a + b) :: read).reverse, true)
    let plain : Scan Nat := do
      separator
      number 16 65535 (some 4) true
    embedded <|> (do groups ((← plain) :: read) room) <|> return (read.reverse, false)

def address6 : Scan (List Nat) := do
  let (head, embedded) ← groups [] 8
  if head.length = 8 then return head
  if embedded then failure
  char ':'
  char ':'
  let (tail, _) ← groups [] (7 - head.length)
  return head ++ List.replicate (8 - head.length - tail.length) 0 ++ tail

def portNumber : Scan Nat := do
  char ':'
  number 10 65535 none true

def scopeNumber : Scan Nat :=
  (do char '%'; number 10 0xFFFFFFFF none true) <|> return 0

def address : Scan SocketAddress :=
  (do
    let (a, b, c, d) ← quad
    return v4 a b c d (← portNumber))
  <|> (do
    char '['
    let groups ← address6
    let scope ← scopeNumber
    char ']'
    return v6 groups scope (← portNumber))

def parse? (s : String) : Option SocketAddress :=
  match address s.toList with
  | some (a, []) => some a
  | _ => none

/-- Start and length of the first longest run of zeros; `i` is the place of the head, and
`start` and `run` say where the run that is being read began and how long it is. -/
def longestZeros (i start run : Nat) (best : Nat × Nat) : List Nat → Nat × Nat
  | [] => best
  | g :: rest =>
    if g = 0 then
      let start := if run = 0 then i else start
      longestZeros (i + 1) start (run + 1)
        (if best.2 < run + 1 then (start, run + 1) else best) rest
    else longestZeros (i + 1) 0 0 best rest

def groupsText (groups : List Nat) : String :=
  ":".intercalate (groups.map fun g => String.ofList (Nat.toDigits 16 g))

def quadText (a b c d : Nat) : String :=
  ".".intercalate ([a, b, c, d].map toString)

def addressText6 (groups : List Nat) : String :=
  match groups with
  | [0, 0, 0, 0, 0, 65535, hi, lo] =>
    "::ffff:" ++ quadText (hi / 256) (hi % 256) (lo / 256) (lo % 256)
  | _ =>
    let (start, run) := longestZeros 0 0 0 (0, 0) groups
    if 1 < run then
      groupsText (groups.take start) ++ "::" ++ groupsText (groups.drop (start + run))
    else groupsText groups

def text : SocketAddress → String
  | v4 a b c d port => quadText a b c d ++ ":" ++ toString port
  | v6 groups scope port =>
    let zone := if scope = 0 then "" else "%" ++ toString scope
    "[" ++ addressText6 groups ++ zone ++ "]:" ++ toString port

def loopback : SocketAddress := v4 127 0 0 1 0

end SocketAddress

end SqlWire
