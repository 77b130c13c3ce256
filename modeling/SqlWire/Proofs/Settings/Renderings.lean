import Mathlib.Data.List.TakeWhile
import SqlWire.Settings.Conninfo

/-!
# Settings and the texts that render them

`Renders settings text` says that a text is these settings: keys, equals signs and values, the
values in quotes or bare, with white space wherever it may stand. Such a text is read as exactly
these settings, so what it spells is what they come to when they are made one after the other.
-/

namespace SqlWire.Conninfo

def Blank (space : List Char) : Prop :=
  ∀ c ∈ space, Text.isBlank c = true

structure IsKey (key : String) : Prop where
  nonempty : key.toList ≠ []
  solid : ∀ c ∈ key.toList, c ≠ '=' ∧ Text.isBlank c = false

/-- The characters of a value as they stand in quotes: quotes and backslashes are told from those
that mean something by a backslash in front of them. -/
def escaped (value : List Char) : List Char :=
  value.flatMap fun c => if c = '\'' ∨ c = '\\' then ['\\', c] else [c]

inductive Writes (rest : List Char) : List Char → List Char → Prop
  | quoted (value : List Char) : Writes rest value ('\'' :: (escaped value ++ ['\'']))
  /-- Without quotes it goes up to white space or to the end. -/
  | bare {value : List Char} (hne : value ≠ []) (hq : value.head? ≠ some '\'')
      (hv : ∀ c ∈ value, Text.isBlank c = false) (hr : ∀ c ∈ rest.head?, Text.isBlank c = true) :
      Writes rest value value

/-- The text is these settings, with white space in front of the keys, around the equals signs and
at the end. -/
inductive Renders : List (String × String) → List Char → Prop
  | nil {space : List Char} (hs : Blank space) : Renders [] space
  | cons {before behind inside written rest : List Char} {key value : String}
      {settings : List (String × String)} (hb : Blank before) (hk : Blank behind)
      (hi : Blank inside) (hw : Writes rest value.toList written) (more : Renders settings rest) :
      Renders ((key, value) :: settings)
        (before ++ (key.toList ++ (behind ++ '=' :: (inside ++ (written ++ rest)))))

/-! ## Reading one setting -/

theorem isBlank_equals : Text.isBlank '=' = false := by decide

theorem isBlank_quote : Text.isBlank '\'' = false := by decide

/-- What has a property goes up to the first character without it. -/
theorem span_ends {p : Char → Bool} {front rest : List Char} (hf : ∀ c ∈ front, p c = true)
    (hr : ∀ c ∈ rest.head?, p c = false) :
    (front ++ rest).takeWhile p = front ∧ (front ++ rest).dropWhile p = rest := by
  rw [List.takeWhile_append_of_pos hf, List.dropWhile_append_of_pos hf]
  cases rest with
  | nil => simp
  | cons c rest => simp [hr c rfl]

/-- White space goes up to the first character that is none. -/
theorem Blank.dropWhile {space text : List Char} (hs : Blank space)
    (ht : ∀ c ∈ text.head?, Text.isBlank c = false) :
    (space ++ text).dropWhile Text.isBlank = text :=
  (span_ends hs ht).2

theorem quotedOnto_plain {c : Char} (h : ¬(c = '\'' ∨ c = '\\')) (read text : List Char) :
    quotedOnto read (c :: text) = quotedOnto (c :: read) text := by
  rw [not_or] at h
  rw [quotedOnto.eq_def]
  split <;> simp_all

/-- What was put in quotes is taken out of them, up to the quote that ends it. -/
theorem quotedOnto_escaped (value read rest : List Char) :
    quotedOnto read (escaped value ++ '\'' :: rest) = some (read.reverse ++ value, rest) := by
  induction value generalizing read with
  | nil => simp [escaped, quotedOnto]
  | cons c value ih =>
      have onward : quotedOnto read (escaped (c :: value) ++ '\'' :: rest) =
          quotedOnto (c :: read) (escaped value ++ '\'' :: rest) := by
        by_cases hc : c = '\'' ∨ c = '\\'
        · have front : escaped (c :: value) = '\\' :: c :: escaped value := by simp [escaped, hc]
          rw [front]
          rfl
        · have front : escaped (c :: value) = c :: escaped value := by simp [escaped, hc]
          rw [front]
          exact quotedOnto_plain hc read _
      rw [onward, ih]
      simp

theorem Writes.head_solid {rest value written : List Char} (h : Writes rest value written) :
    ∀ c ∈ (written ++ rest).head?, Text.isBlank c = false := by
  cases h with
  | quoted =>
      intro c hc
      cases hc
      exact isBlank_quote
  | bare hne _ hv _ =>
      cases value with
      | nil => exact absurd rfl hne
      | cons d value =>
          intro c hc
          cases hc
          exact hv d List.mem_cons_self

theorem Writes.reads {rest value written : List Char} (h : Writes rest value written) :
    value? (written ++ rest) = some (value, rest) := by
  cases h with
  | quoted =>
      have read := quotedOnto_escaped value [] rest
      rw [List.cons_append, List.append_assoc]
      exact read
  | bare hne hq hv hr =>
      have unquoted : value? (value ++ rest) = some ((value ++ rest).takeWhile (!Text.isBlank ·),
          (value ++ rest).dropWhile (!Text.isBlank ·)) := by
        unfold value?
        split
        · next heq =>
            cases value with
            | nil => exact absurd rfl hne
            | cons c value =>
                cases heq
                exact absurd rfl hq
        · rfl
      have word := span_ends (p := (!Text.isBlank ·)) (fun c hc => by rw [hv c hc]; rfl)
        fun c hc => by rw [hr c hc]; rfl
      rw [unquoted, word.1, word.2]

/-- The first setting of a text is read with everything that belongs to it. -/
theorem setting_written {behind inside written rest : List Char} {key value : String}
    (hkey : IsKey key) (hk : Blank behind) (hi : Blank inside)
    (hw : Writes rest value.toList written) :
    setting (key.toList ++ (behind ++ '=' :: (inside ++ (written ++ rest)))) =
      .ok ((key, value), rest) := by
  have keyChars : ∀ c ∈ key.toList, isKeyChar c = true := by
    intro c hc
    simp [isKeyChar, hkey.solid c hc]
  have ends : ∀ c ∈ (behind ++ '=' :: (inside ++ (written ++ rest))).head?,
      isKeyChar c = false := by
    cases behind with
    | nil =>
        intro c hc
        cases hc
        rfl
    | cons d behind =>
        intro c hc
        cases hc
        simp [isKeyChar, hk d List.mem_cons_self]
  have equals : (behind ++ '=' :: (inside ++ (written ++ rest))).dropWhile Text.isBlank =
      '=' :: (inside ++ (written ++ rest)) := by
    refine hk.dropWhile fun c hc => ?_
    cases hc
    exact isBlank_equals
  have front := span_ends keyChars ends
  unfold setting
  rw [front.1, front.2, equals]
  simp only [hi.dropWhile hw.head_solid, hw.reads, String.ofList_toList]

/-! ## Reading all of them -/

theorem settings_blank {space : List Char} (hs : Blank space) : settings space = ([], none) := by
  have none_left : space.dropWhile Text.isBlank = [] := List.dropWhile_eq_nil_iff.2 hs
  rw [settings, none_left]
  rfl

/-- What follows a setting that can be read is read behind it. -/
theorem settings_front {space text left : List Char} {s : String × String} (hs : Blank space)
    (ht : ∀ c ∈ text.head?, Text.isBlank c = false) (hne : text ≠ [])
    (h : setting text = .ok (s, left)) :
    settings (space ++ text) = (s :: (settings left).1, (settings left).2) := by
  have front := hs.dropWhile ht
  rw [settings, front, if_neg (by simpa using hne)]
  split
  · next e he =>
      rw [h] at he
      cases he
  · next s' left' he =>
      rw [h] at he
      cases he
      rfl

theorem Renders.settings {list : List (String × String)} {text : List Char}
    (h : Renders list text) (keys : ∀ s ∈ list, IsKey s.1) : settings text = (list, none) := by
  induction h with
  | nil hs => exact settings_blank hs
  | @cons before behind inside written rest key value list hb hk hi hw more ih =>
      obtain ⟨hkey, hkeys⟩ := List.forall_mem_cons.1 keys
      obtain ⟨c, chars, hc⟩ := List.exists_cons_of_ne_nil hkey.nonempty
      have head : ∀ d ∈ (key.toList ++ (behind ++ '=' :: (inside ++ (written ++ rest)))).head?,
          Text.isBlank d = false := by
        intro d hd
        rw [hc] at hd
        cases hd
        exact (hkey.solid c (by simp [hc])).2
      -- The white space in front ends with the key, which has a first character.
      rw [settings_front hb head (by simp [hkey.nonempty]) (setting_written hkey hk hi hw),
        ih hkeys]

/-- A text that renders settings spells the options that come of making them one after the other,
from the defaults on: with the last of several values for one key, and with the complaint about the
first setting that is refused. -/
theorem rendered_settings_take_effect {settings : List (String × String)} {s : String}
    (keys : ∀ setting ∈ settings, IsKey setting.1) (h : Renders settings s.toList) :
    parse s = settings.foldlM (fun o setting => o.set setting.1 setting.2) {} := by
  unfold parse
  rw [h.settings keys]
  dsimp only
  cases settings.foldlM (fun o (setting : String × String) => o.set setting.1 setting.2)
    ({} : ConnectOptions) with
  | error e => rfl
  | ok options => rfl

/-- A quote and a backslash in a value, a key right behind it, and a key that comes twice. -/
theorem rendered_settings_take_effect_repeated :
    let settings := [("user", "o'b\\ien"), ("port", "1"), ("port", "6000")]
    let s := " user = 'o\\'b\\\\ien'port=1\n port =6000"
    (∀ setting ∈ settings, IsKey setting.1) ∧ Renders settings s.toList ∧
      parse s = .ok { user := "o'b\\ien", port := 6000 } := by
  intro settings s
  have key {text : String} (hne : text.toList ≠ [])
      (h : text.toList.all (fun c => c != '=' && !Text.isBlank c) = true) : IsKey text :=
    ⟨hne, by simpa using h⟩
  have keys : ∀ setting ∈ settings, IsKey setting.1 := by
    have user : IsKey "user" := key (by decide) (by decide)
    have port : IsKey "port" := key (by decide) (by decide)
    simp [settings, user, port]
  have blank {space : List Char} (h : space.all Text.isBlank = true) : Blank space :=
    List.all_eq_true.1 h
  have empty : Blank [] := blank rfl
  have space : Blank [' '] := blank (by decide)
  have line : Blank ['\n', ' '] := blank (by decide)
  have bare {rest value : List Char} (hne : value ≠ []) (hq : value.head? ≠ some '\'')
      (hv : value.all (!Text.isBlank ·) = true) (hr : rest.head?.all Text.isBlank = true) :
      Writes rest value value := by
    refine .bare hne hq (by simpa using hv) fun c hc => ?_
    rw [Option.mem_def.1 hc] at hr
    exact hr
  have number : Writes [] "6000".toList "6000".toList :=
    bare (by decide) (by decide) (by decide) (by decide)
  have digit : Writes "\n port =6000".toList "1".toList "1".toList :=
    bare (by decide) (by decide) (by decide) (by decide)
  have last : Renders [("port", "6000")] "\n port =6000".toList :=
    .cons line space empty number (.nil empty)
  have second : Renders [("port", "1"), ("port", "6000")] "port=1\n port =6000".toList :=
    .cons empty empty empty digit last
  have written : '\'' :: (escaped "o'b\\ien".toList ++ ['\'']) = "'o\\'b\\\\ien'".toList := by
    decide
  have name : Writes "port=1\n port =6000".toList "o'b\\ien".toList "'o\\'b\\\\ien'".toList :=
    written ▸ .quoted _
  have text : s.toList = [' '] ++ ("user".toList ++ ([' '] ++ '=' ::
      ([' '] ++ ("'o\\'b\\\\ien'".toList ++ "port=1\n port =6000".toList)))) := by decide
  have rendered : Renders settings s.toList := text ▸ .cons space space space name second
  refine ⟨keys, rendered, ?_⟩
  rw [rendered_settings_take_effect keys rendered]
  decide

end SqlWire.Conninfo
