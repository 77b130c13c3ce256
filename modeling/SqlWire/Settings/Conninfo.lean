import SqlWire.Settings.ConnectOptions
import SqlWire.Text.Blank

/-! # Options in one line of text

Settings `key = value` with white space between them and, if one likes, around the equals
sign. A value with white space stands in single quotes, in which a backslash takes the next
character as it is.

The settings are read up to the first that cannot be read. They take effect in their order, so
a setting that is refused wins over a later one that cannot be read.
-/

namespace SqlWire.Conninfo

def isKeyChar (c : Char) : Bool :=
  !(c == '=' || Text.isBlank c)

/-- The rest of a quoted value and what follows its closing quote; the characters read so far
stand in `read`, newest first. -/
def quotedOnto (read : List Char) : List Char → Option (List Char × List Char)
  | [] => none
  | '\'' :: rest => some (read.reverse, rest)
  | '\\' :: c :: rest => quotedOnto (c :: read) rest
  | '\\' :: [] => none
  | c :: rest => quotedOnto (c :: read) rest

def value? (text : List Char) : Option (List Char × List Char) :=
  match text with
  | '\'' :: rest => quotedOnto [] rest
  | _ => some (text.takeWhile (!Text.isBlank ·), text.dropWhile (!Text.isBlank ·))

def setting (text : List Char) : Except ConfigError ((String × String) × List Char) :=
  let key := String.ofList (text.takeWhile isKeyChar)
  match (text.dropWhile isKeyChar).dropWhile Text.isBlank with
  | '=' :: rest =>
    match value? (rest.dropWhile Text.isBlank) with
    | some (value, left) => .ok ((key, String.ofList value), left)
    | none => .error .unterminatedQuote
  | _ => .error (.missingEquals key)

theorem quotedOnto_length_le {read text value left : List Char}
    (h : quotedOnto read text = some (value, left)) : left.length ≤ text.length := by
  fun_induction quotedOnto read text <;> grind

theorem value?_length_le {text value left : List Char} (h : value? text = some (value, left)) :
    left.length ≤ text.length := by
  unfold value? at h
  split at h
  · have := quotedOnto_length_le h
    simp only [List.length_cons]
    omega
  · cases h
    exact (List.dropWhile_sublist _).length_le

theorem setting_length_lt {text left : List Char} {s : String × String}
    (h : setting text = .ok (s, left)) : left.length < text.length := by
  unfold setting at h
  split at h
  · next _ rest heq =>
    split at h
    · next _ value _ hvalue =>
      cases h
      have h1 := value?_length_le hvalue
      have h2 := (List.dropWhile_sublist Text.isBlank (l := rest)).length_le
      have h3 := (List.dropWhile_sublist Text.isBlank (l := text.dropWhile isKeyChar)).length_le
      have h4 := (List.dropWhile_sublist isKeyChar (l := text)).length_le
      rw [heq, List.length_cons] at h3
      omega
    · cases h
  · cases h

/-- The settings of a text up to its end or to the first one that cannot be read. -/
def settings (text : List Char) : List (String × String) × Option ConfigError :=
  if (text.dropWhile Text.isBlank).isEmpty then ([], none)
  else
    match _h : setting (text.dropWhile Text.isBlank) with
    | .error e => ([], some e)
    | .ok (s, left) =>
      let (more, fault) := settings left
      (s :: more, fault)
termination_by text.length
decreasing_by
  have h1 := setting_length_lt _h
  have h2 := (List.dropWhile_sublist Text.isBlank (l := text)).length_le
  omega

def parse (s : String) : Except ConfigError ConnectOptions := do
  let (list, fault) := settings s.toList
  let options ← list.foldlM (fun o (key, value) => o.set key value) {}
  match fault with
  | some e => throw e
  | none => return options

end SqlWire.Conninfo
