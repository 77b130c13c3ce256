import Mathlib.Data.List.DropRight
import Mathlib.Data.List.TakeWhile
import SqlWire.Sql.Kind

/-!
# Words of a text

`Text.Spaced words text` says that a text is these words with white space between and around them,
and a text is cut into exactly the words that it is. The kind of a statement hangs on its first word
and the word behind it, which `Text.firstWord` and `Text.behindWord` take off a text.
-/

namespace SqlWire

namespace Text

variable {separates : Char → Bool}

/-- What separates the parts of a text belongs to none, also in front of the first. -/
theorem parts_dropWhile (text : List Char) :
    parts separates (text.dropWhile separates) = parts separates text := by
  induction text with
  | nil => rfl
  | cons c rest ih =>
      rw [List.dropWhile_cons]
      cases hc : separates c with
      | false => rfl
      | true =>
          rw [if_pos rfl, ih]
          simp [parts, partsOnto, hc]

theorem partsOnto_done (part : List Char) (done : List (List Char)) (text : List Char) :
    partsOnto separates part done text = done.reverse ++ partsOnto separates part [] text := by
  induction text generalizing part done with
  | nil => cases part <;> simp [partsOnto]
  | cons c rest ih =>
      unfold partsOnto
      split
      · rw [ih [], ih [] (if part.isEmpty then [] else _)]
        cases part <;> simp
      · exact ih (c :: part) done

/-- A part that was begun goes on up to the next separator. -/
theorem partsOnto_begun {part : List Char} (hp : part ≠ []) (text : List Char) :
    partsOnto separates part [] text =
      (part.reverse ++ text.takeWhile (!separates ·)) ::
        parts separates (text.dropWhile (!separates ·)) := by
  induction text generalizing part with
  | nil => simp [partsOnto, parts, hp]
  | cons c rest ih =>
      unfold partsOnto
      cases hc : separates c with
      | false =>
          rw [if_neg Bool.false_ne_true, ih (List.cons_ne_nil c part)]
          simp [hc]
      | true =>
          rw [if_pos rfl, partsOnto_done]
          simp [hp, hc, parts, partsOnto]

theorem parts_cons {c : Char} (hc : separates c = false) (text : List Char) :
    parts separates (c :: text) = (c :: text.takeWhile (!separates ·)) ::
      parts separates (text.dropWhile (!separates ·)) := by
  have begun : parts separates (c :: text) = partsOnto separates [c] [] text := by
    simp [parts, partsOnto, hc]
  rw [begun, partsOnto_begun (List.cons_ne_nil c [])]
  rfl

/-! ## Texts made of words -/

/-- The text is these words, with white space between and around them. -/
inductive Spaced : List (List Char) → List Char → Prop
  | nil {space : List Char} (hs : ∀ c ∈ space, isBlank c = true) : Spaced [] space
  | cons {space word rest : List Char} {words : List (List Char)}
      (hs : ∀ c ∈ space, isBlank c = true) (hw : word ≠ []) (hb : ∀ c ∈ word, isBlank c = false)
      (hr : ∀ c ∈ rest.head?, isBlank c = true) (more : Spaced words rest) :
      Spaced (word :: words) (space ++ (word ++ rest))

/-- A word ends where white space follows or nothing. -/
theorem parts_word {word rest : List Char} (hw : word ≠ []) (hb : ∀ c ∈ word, isBlank c = false)
    (hr : ∀ c ∈ rest.head?, isBlank c = true) :
    parts isBlank (word ++ rest) = word :: parts isBlank rest := by
  cases word with
  | nil => exact absurd rfl hw
  | cons c word =>
      obtain ⟨hc, hb⟩ := List.forall_mem_cons.1 hb
      have inside : ∀ d ∈ word, (!isBlank d) = true := fun d hd => by rw [hb d hd]; rfl
      rw [List.cons_append, parts_cons hc, List.takeWhile_append_of_pos inside,
        List.dropWhile_append_of_pos inside]
      cases rest with
      | nil => simp
      | cons d rest => simp [hr d rfl]

/-- White space ends with the first character that is none. -/
theorem blank_ends {text rest : List Char} {c : Char} (h : text.dropWhile isBlank = c :: rest) :
    isBlank c = false := by
  have head := List.head?_dropWhile_not isBlank text
  rwa [h] at head

/-- Every text is made of the words into which it is cut. -/
theorem spaced_parts (text : List Char) : Spaced (parts isBlank text) text := by
  have space (c : Char) (h : c ∈ text.takeWhile isBlank) : isBlank c = true :=
    List.mem_takeWhile_imp h
  have split : text.takeWhile isBlank ++ text.dropWhile isBlank = text :=
    List.takeWhile_append_dropWhile
  rw [← parts_dropWhile]
  cases hd : text.dropWhile isBlank with
  | nil =>
      rw [hd, List.append_nil] at split
      rw [← split]
      exact .nil space
  | cons c rest =>
      have hc := blank_ends hd
      have hword : ∀ d ∈ c :: rest.takeWhile (!isBlank ·), isBlank d = false := by
        refine List.forall_mem_cons.2 ⟨hc, fun d h => ?_⟩
        simpa using List.mem_takeWhile_imp h
      have hrest : ∀ d ∈ (rest.dropWhile (!isBlank ·)).head?, isBlank d = true := by
        intro d h
        have head := List.head?_dropWhile_not (!isBlank ·) rest
        rw [h] at head
        simpa using head
      have shorter : (rest.dropWhile (!isBlank ·)).length < text.length := by
        have whole := congrArg List.length split
        rw [hd, List.length_append, List.length_cons] at whole
        have := List.length_dropWhile_le (!isBlank ·) rest
        omega
      have spaced := Spaced.cons space (List.cons_ne_nil c _) hword hrest
        (spaced_parts (rest.dropWhile (!isBlank ·)))
      rw [List.cons_append, List.takeWhile_append_dropWhile, ← hd, split] at spaced
      rw [parts_cons hc]
      exact spaced
termination_by text.length

/-- A text is cut into exactly the words that it is made of. -/
theorem spaced_iff {words : List (List Char)} {text : List Char} :
    Spaced words text ↔ parts isBlank text = words := by
  constructor
  · intro h
    induction h with
    | nil hs =>
        rw [← parts_dropWhile, List.dropWhile_eq_nil_iff.2 hs]
        rfl
    | cons hs hw hb hr more ih =>
        rw [← parts_dropWhile, List.dropWhile_append_of_pos hs, parts_dropWhile,
          parts_word hw hb hr, ih]
  · rintro rfl
    exact spaced_parts text

/-! ## The first word -/

def firstWord (text : List Char) : List Char :=
  (text.dropWhile isBlank).takeWhile (!isBlank ·)

def behindWord (text : List Char) : List Char :=
  (text.dropWhile isBlank).dropWhile (!isBlank ·)

/-- The words of a text are its first and those of what follows it. -/
theorem parts_front (text : List Char) :
    (parts isBlank text).headD [] = firstWord text ∧
      (parts isBlank text).tail = parts isBlank (behindWord text) := by
  rw [← parts_dropWhile, firstWord, behindWord]
  cases hd : text.dropWhile isBlank with
  | nil => exact ⟨rfl, rfl⟩
  | cons c rest =>
      have hc := blank_ends hd
      simp [parts_cons, hc]

variable {front : List Char}

theorem firstWord_eq_nil : firstWord front = [] ↔ front.dropWhile isBlank = [] := by
  unfold firstWord
  cases hd : front.dropWhile isBlank with
  | nil => simp
  | cons c rest => simp [blank_ends hd]

/-- Behind white space the first word is what it is without. -/
theorem front_append_blank (h : firstWord front = []) (behind : List Char) :
    firstWord (front ++ behind) = firstWord behind ∧
      behindWord (front ++ behind) = behindWord behind := by
  have skip : (front ++ behind).dropWhile isBlank = behind.dropWhile isBlank := by
    rw [List.dropWhile_append, firstWord_eq_nil.1 h]
    rfl
  rw [firstWord, behindWord, skip]
  exact ⟨rfl, rfl⟩

/-- A word at the very end goes on with what is appended, up to the next white space. -/
theorem front_append_word (h : firstWord front ≠ []) (hb : behindWord front = [])
    (behind : List Char) :
    firstWord (front ++ behind) = firstWord front ++ behind.takeWhile (!isBlank ·) ∧
      behindWord (front ++ behind) = behind.dropWhile (!isBlank ·) := by
  have skip : (front ++ behind).dropWhile isBlank = front.dropWhile isBlank ++ behind := by
    rw [List.dropWhile_append, if_neg]
    simpa using firstWord_eq_nil.not.1 h
  have inside := List.dropWhile_eq_nil_iff.1 hb
  rw [firstWord, behindWord, skip, List.takeWhile_append_of_pos inside,
    List.dropWhile_append_of_pos inside, firstWord, List.takeWhile_eq_self_iff.2 inside]
  exact ⟨rfl, rfl⟩

/-- A word that something follows stays as it is. -/
theorem front_append_behind (hb : behindWord front ≠ []) (behind : List Char) :
    firstWord (front ++ behind) = firstWord front ∧
      behindWord (front ++ behind) = behindWord front ++ behind := by
  have skip : (front ++ behind).dropWhile isBlank = front.dropWhile isBlank ++ behind := by
    rw [List.dropWhile_append, if_neg]
    intro he
    rw [List.isEmpty_iff] at he
    rw [behindWord, he] at hb
    exact hb rfl
  have ends : ((front.dropWhile isBlank).takeWhile (!isBlank ·)).length ≠
      (front.dropWhile isBlank).length := by
    intro he
    have whole := congrArg List.length
      (List.takeWhile_append_dropWhile (p := (!isBlank ·)) (l := front.dropWhile isBlank))
    rw [List.length_append, he] at whole
    exact hb (List.length_eq_zero_iff.1 (Nat.add_eq_left.1 whole))
  rw [firstWord, behindWord, skip, List.takeWhile_append, if_neg ends, List.dropWhile_append,
    if_neg (by simpa [behindWord] using hb)]
  exact ⟨rfl, rfl⟩

/-- The first word of a text may go on with what is appended. -/
theorem firstWord_prefix (h : firstWord front ≠ []) (behind : List Char) :
    firstWord front <+: firstWord (front ++ behind) := by
  by_cases hb : behindWord front = []
  · rw [(front_append_word h hb behind).1]
    exact List.prefix_append _ _
  · simp [(front_append_behind hb behind).1]

theorem mem_upper {c : Char} {word : List Char} (h : c ∈ word) :
    c.toUpper ∈ (upper (String.ofList word)).toList := by
  rw [upper, String.toList_ofList, String.toList_ofList]
  exact List.mem_map_of_mem h

end Text

namespace SqlKind

def knownWords : List String :=
  ["SELECT", "WITH", "VALUES", "INSERT", "UPDATE", "DELETE", "CREATE", "DROP", "ALTER", "BEGIN",
    "START", "COMMIT", "END", "ROLLBACK", "ABORT"]

theorem ofWords_unknown {words : List String} (h : keyword (words.headD "") ∉ knownWords) :
    ofWords words = .other := by
  unfold ofWords
  split
  all_goals first | rfl | simp_all [knownWords]

theorem ofWords_cons_unknown {word : String} (h : keyword word ∉ knownWords)
    (others : List String) : ofWords (word :: others) = .other :=
  ofWords_unknown h

/-- The kind of a statement hangs on its first word, and on whether the second is `TO`. -/
theorem ofWords_congr {words words' : List String}
    (first : keyword (words.headD "") = keyword (words'.headD ""))
    (second : Text.upper (words.tail.headD "") = "TO" ↔ Text.upper (words'.tail.headD "") = "TO") :
    ofWords words = ofWords words' := by
  unfold ofWords
  simp only [first, second]

/-- Behind the verb of a rollback only `TO` keeps the transaction. -/
theorem ofWords_rollback {verb : String} (hv : keyword verb ∈ ["ROLLBACK", "ABORT"])
    (second : String) (others : List String) :
    ofWords (verb :: second :: others) =
      if Text.upper second = "TO" then .other else .rollback := by
  unfold ofWords
  rw [List.headD_cons]
  simp only [List.mem_cons, List.not_mem_nil, or_false] at hv
  rcases hv with hv | hv
  all_goals
    rw [hv]
    rfl

/-- Behind any other word nothing matters. -/
theorem ofWords_alone {word : String} (h : keyword word ∉ ["ROLLBACK", "ABORT"])
    (others others' : List String) : ofWords (word :: others) = ofWords (word :: others') := by
  by_cases known : keyword word ∈ knownWords
  · unfold ofWords
    rw [List.headD_cons, List.headD_cons]
    generalize keyword word = k at h known
    simp only [knownWords, List.mem_cons, List.not_mem_nil, or_false] at known
    rcases known with rfl | rfl | rfl | rfl | rfl | rfl | rfl | rfl | rfl | rfl | rfl | rfl | rfl |
      rfl | rfl
    all_goals first | rfl | exact absurd (by decide) h
  · rw [ofWords_cons_unknown known, ofWords_cons_unknown known]

theorem ofText_front (sql : String) :
    ofText sql = ofWords [String.ofList (Text.firstWord sql.toList),
      String.ofList (Text.firstWord (Text.behindWord sql.toList))] := by
  obtain ⟨first, tail⟩ := Text.parts_front sql.toList
  obtain ⟨second, -⟩ := Text.parts_front (Text.behindWord sql.toList)
  have headD (parts : List (List Char)) :
      (parts.map String.ofList).headD "" = String.ofList (parts.headD []) := by
    cases parts <;> rfl
  refine ofWords_congr (congrArg keyword ?_) ?_
  · rw [Text.words, headD, first]
    rfl
  · rw [Text.words, ← List.map_tail, headD, tail, second]
    rfl

/-- The semicolons at the end of a word do not matter. -/
theorem keyword_semicolons (word : List Char) {semicolons : List Char}
    (h : ∀ c ∈ semicolons, c = ';') :
    keyword (String.ofList (word ++ semicolons)) = keyword (String.ofList word) := by
  have dropped : ∀ c ∈ semicolons.reverse, (c == ';') = true := fun c hc =>
    beq_iff_eq.2 (h c (List.mem_reverse.1 hc))
  simp only [keyword, String.toList_ofList, List.reverse_append]
  rw [List.dropWhile_append_of_pos dropped]

/-- What stands in a word besides semicolons stands in its keyword, in upper case. -/
theorem mem_keyword {c : Char} {word : List Char} (hc : c ∈ word) (hs : c ≠ ';') :
    c.toUpper ∈ (keyword (String.ofList word)).toList := by
  have kept (l : List Char) (h : c ∈ l) : c ∈ l.dropWhile (· == ';') := by
    induction l with
    | nil => cases h
    | cons d l ih =>
        rw [List.dropWhile_cons]
        split
        · next hd =>
            refine ih ((List.mem_cons.1 h).resolve_left fun he => hs ?_)
            rw [he]
            simpa using hd
        · exact h
  rw [keyword, String.toList_ofList]
  exact Text.mem_upper (List.mem_reverse.2 (kept _ (List.mem_reverse.2 hc)))

/-- A word with a hyphen tells nothing. -/
theorem ofWords_hyphen {word : List Char} (h : '-' ∈ word) (others : List String) :
    ofWords (String.ofList word :: others) = .other := by
  have plain : ∀ k ∈ knownWords, '-' ∉ k.toList := by decide
  refine ofWords_cons_unknown (fun known => plain _ known ?_) others
  exact mem_keyword h (by decide)

/-- Nor does one that begins with a semicolon. -/
theorem ofWords_semicolon (word : List Char) (others : List String) :
    ofWords (String.ofList (';' :: word) :: others) = .other := by
  have plain : ∀ k ∈ knownWords, k.toList ≠ [] ∧ k.toList.head? ≠ some ';' := by decide
  refine ofWords_cons_unknown (fun known => ?_) others
  obtain ⟨filled, other⟩ := plain _ known
  have front : (keyword (String.ofList (';' :: word))).toList <+:
      (';' :: word).map Char.toUpper := by
    simp only [keyword, Text.upper, String.toList_ofList]
    exact (List.rdropWhile_prefix (· == ';') (';' :: word)).map Char.toUpper
  cases hk : (keyword (String.ofList (';' :: word))).toList with
  | nil => exact filled hk
  | cons c rest =>
      rw [hk] at front other
      have first : c = Char.toUpper ';' := (List.cons_prefix_cons.1 front).1
      exact other (by rw [first]; rfl)

end SqlKind

end SqlWire
