import SqlWire.Proofs.Sql.Words
import SqlWire.Sql.Dialect

/-!
# Placeholders and the kind of a statement

Before a bound statement is run, its placeholders are numbered for the engine, which writes `?`
for some of its `$`. The words by which the kind of a statement is known have neither, so the
statement is of the same kind afterwards.
-/

namespace SqlWire

namespace Sql

def marked (c : Char) : Char :=
  if c = '$' then '?' else c

/-- Numbering the placeholders changes nothing but `$`. -/
theorem numberedOnto_marked (written : List Char) (quote : Option Char) (text : List Char) :
    (numberedOnto written quote text).map marked =
      written.reverse.map marked ++ text.map marked := by
  induction text generalizing written quote with
  | nil => simp [numberedOnto]
  | cons c rest ih =>
      unfold numberedOnto
      split
      · next h =>
          obtain ⟨-, rfl, -⟩ := h
          simp [ih, marked]
      · simp [ih]

def Unmarked (text : List Char) : Prop :=
  ∀ c ∈ text, c ≠ '$' ∧ c ≠ '?'

theorem Unmarked.eq {text text' : List Char} (h : Unmarked text)
    (hm : text.map marked = text'.map marked) : text' = text := by
  induction text generalizing text' with
  | nil => simpa using hm.symm
  | cons c rest ih =>
      cases text' with
      | nil => simp at hm
      | cons c' rest' =>
          simp only [List.map_cons, List.cons.injEq] at hm
          obtain ⟨hc, hrest⟩ := hm
          obtain ⟨hdollar, hmark⟩ := h c List.mem_cons_self
          have same : c' = c := by
            unfold marked at hc
            rw [if_neg hdollar] at hc
            split at hc
            · exact absurd hc hmark
            · exact hc.symm
          rw [same, ih (fun b hb => h b (List.mem_cons_of_mem c hb)) hrest]

instance : DecidablePred Unmarked :=
  fun text => List.decidableBAll (fun c => c ≠ '$' ∧ c ≠ '?') text

/-- What is left of a text in upper case and without semicolons tells whether it is unmarked. -/
theorem Unmarked.of_upper {text upper : List Char} (h : Unmarked upper)
    (hm : ∀ c ∈ text, c ≠ ';' → c.toUpper ∈ upper) : Unmarked text := by
  intro c hc
  constructor
  · rintro rfl
    exact (h '$' (hm '$' hc (by decide))).1 rfl
  · rintro rfl
    exact (h '?' (hm '?' hc (by decide))).2 rfl

/-- White space is not exchanged, so the words of a text stay apart. -/
theorem partsOnto_marked (part : List Char) (parts : List (List Char)) (text : List Char) :
    Text.partsOnto Text.isBlank (part.map marked) (parts.map (List.map marked))
        (text.map marked) =
      (Text.partsOnto Text.isBlank part parts text).map (List.map marked) := by
  have blank (c : Char) : Text.isBlank (marked c) = Text.isBlank c := by
    unfold marked
    split
    · next h => rw [h]; decide
    · rfl
  induction text generalizing part parts with
  | nil => cases part <;> simp [Text.partsOnto]
  | cons c rest ih =>
      simp only [List.map_cons, Text.partsOnto, blank]
      cases hb : Text.isBlank c with
      | false => exact ih (c :: part) parts
      | true =>
          cases part with
          | nil => exact ih [] parts
          | cons d part =>
              have h := ih [] ((d :: part).reverse :: parts)
              simpa using h

theorem words_numbered (sql : String) :
    (Text.parts Text.isBlank (numberedPlaceholders sql).toList).map (List.map marked) =
      (Text.parts Text.isBlank sql.toList).map (List.map marked) := by
  have same : (numberedPlaceholders sql).toList.map marked = sql.toList.map marked := by
    unfold numberedPlaceholders
    rw [String.toList_ofList]
    exact numberedOnto_marked [] none sql.toList
  unfold Text.parts
  rw [← partsOnto_marked, ← partsOnto_marked, same]

end Sql

namespace SqlKind

/-- A word by which a statement is known could not have been changed. -/
theorem keyword_marked {word word' : List Char} (hm : word.map Sql.marked = word'.map Sql.marked)
    (hk : keyword (String.ofList word) ∈ knownWords) : word' = word := by
  have plain : ∀ k ∈ knownWords, Sql.Unmarked k.toList := by decide
  exact ((plain _ hk).of_upper fun _ => mem_keyword).eq hm

/-- Nor could `TO`. -/
theorem to_marked {word word' : List Char} (hm : word.map Sql.marked = word'.map Sql.marked)
    (hto : Text.upper (String.ofList word) = "TO") : word' = word := by
  have plain : Sql.Unmarked "TO".toList := by decide
  refine (plain.of_upper fun c hc _ => ?_).eq hm
  rw [← hto]
  exact Text.mem_upper hc

theorem ofWords_marked {words words' : List (List Char)}
    (hm : words.map (List.map Sql.marked) = words'.map (List.map Sql.marked)) :
    ofWords (words.map String.ofList) = ofWords (words'.map String.ofList) := by
  cases words with
  | nil =>
      rw [List.map_eq_nil_iff.1 hm.symm]
  | cons word rest =>
      cases words' with
      | nil => cases hm
      | cons word' rest' =>
          obtain ⟨first, others⟩ := List.cons.inj hm
          rw [List.map_cons, List.map_cons]
          by_cases known : keyword (String.ofList word) ∈ knownWords
          · rw [keyword_marked first known]
            refine ofWords_congr rfl ?_
            cases rest with
            | nil => rw [List.map_eq_nil_iff.1 others.symm]
            | cons word₂ rest =>
                cases rest' with
                | nil => cases others
                | cons word₂' rest' =>
                    obtain ⟨second, -⟩ := List.cons.inj others
                    constructor
                    · intro hto
                      rwa [to_marked second hto]
                    · intro hto
                      rwa [to_marked second.symm hto]
          · have known' : keyword (String.ofList word') ∉ knownWords := by
              intro known'
              rw [keyword_marked first.symm known'] at known
              exact known known'
            rw [ofWords_cons_unknown known, ofWords_cons_unknown known']

/-- Numbering the placeholders of a statement does not change its kind. -/
theorem ofText_numbered (sql : String) : ofText (Sql.numberedPlaceholders sql) = ofText sql :=
  ofWords_marked (Sql.words_numbered sql)

/-- A statement that begins or ends a transaction still does so when its placeholders are
numbered. -/
theorem numbered_control {sql : String} (h : (ofText sql).isTransactionControl = true) :
    (ofText (Sql.numberedPlaceholders sql)).isTransactionControl = true := by
  rw [ofText_numbered]
  exact h

end SqlKind

end SqlWire
