/-! # Letter case, within ASCII

Only the letters of ASCII have case here; every other character stays as it is.
-/

namespace SqlWire.Text

def upper (s : String) : String :=
  String.ofList (s.toList.map Char.toUpper)

def lower (s : String) : String :=
  String.ofList (s.toList.map Char.toLower)

def occursIn (needle : List Char) : List Char → Bool
  | [] => needle.isEmpty
  | c :: rest => needle.isPrefixOf (c :: rest) || occursIn needle rest

def contains (s needle : String) : Bool :=
  occursIn needle.toList s.toList

end SqlWire.Text
