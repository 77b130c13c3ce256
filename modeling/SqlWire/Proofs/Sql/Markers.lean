import SqlWire.Proofs.Sql.Zones
import SqlWire.Sql.Dialect

/-!
# Placeholders of a query text

A placeholder is a `$` in front of a digit. Numbering the placeholders for the engine follows the
quotes of a text, but knows nothing of its comments: a placeholder in a comment is rewritten too,
and a quote in a comment is taken for one that opens or ends a quotation, so that from there on code
may be taken for quoted text and quoted text for code. `Sql.numbered_outside_quotes` says which
placeholders are rewritten, and where these are the ones in code.
-/

namespace SqlWire.Sql

def IsMarker (text : List Char) (i : Nat) : Prop :=
  text[i]? = some '$' ∧ text[i + 1]?.any Char.isDigit = true

instance (text : List Char) (i : Nat) : Decidable (IsMarker text i) :=
  inferInstanceAs (Decidable (_ ∧ _))

/-- The quote that is open in front of a position, for a reader who knows no comments. -/
def openQuote (text : List Char) (i : Nat) : Option Char :=
  (text.take i).foldl quoteAfter none

def zoneAt (text : List Char) (i : Nat) : Option Zone :=
  (layout text)[i]?.map Prod.snd

/-! ## What is rewritten -/

theorem numberedOnto_written (written : List Char) (quote : Option Char) (text : List Char) :
    numberedOnto written quote text = written.reverse ++ numberedOnto [] quote text := by
  induction text generalizing written quote with
  | nil => simp [numberedOnto]
  | cons c rest ih =>
      unfold numberedOnto
      split
      · rw [ih ('?' :: written), ih ['?']]
        simp
      · rw [ih (c :: written), ih [c]]
        simp

/-- Each character is written in its place, and the quote behind it is the one that it leaves
open, whether it is rewritten or not. -/
theorem numberedOnto_cons (quote : Option Char) (c : Char) (rest : List Char) :
    numberedOnto [] quote (c :: rest) =
      (if quote = none ∧ c = '$' ∧ rest.head?.any Char.isDigit then '?' else c) ::
        numberedOnto [] (quoteAfter quote c) rest := by
  rw [numberedOnto]
  split
  · next h =>
      obtain ⟨rfl, rfl, -⟩ := h
      rw [numberedOnto_written]
      rfl
  · rw [numberedOnto_written]
    rfl

/-- The character at a position is rewritten if there is a placeholder and no quote is open. -/
theorem numberedOnto_get (quote : Option Char) (text : List Char) (i : Nat) :
    (numberedOnto [] quote text)[i]? =
      if IsMarker text i ∧ (text.take i).foldl quoteAfter quote = none then some '?'
      else text[i]? := by
  induction text generalizing quote i with
  | nil => simp [numberedOnto, IsMarker]
  | cons c rest ih =>
      rw [numberedOnto_cons]
      cases i with
      | zero =>
          have here : IsMarker (c :: rest) 0 ↔ c = '$' ∧ rest.head?.any Char.isDigit = true := by
            simp [IsMarker, List.head?_eq_getElem?]
          simp only [here, List.take_zero, List.foldl_nil, List.getElem?_cons_zero, and_comm]
          split <;> rfl
      | succ i => exact ih (quoteAfter quote c) i

theorem numbered_get (sql : String) (i : Nat) :
    (numberedPlaceholders sql).toList[i]? =
      if IsMarker sql.toList i ∧ openQuote sql.toList i = none then some '?'
      else sql.toList[i]? := by
  rw [numberedPlaceholders, String.toList_ofList]
  exact numberedOnto_get none sql.toList i

/-! ## Quotes and zones -/

def Zone.quote? : Zone → Option Char
  | quoted q => some q
  | code | comment => none

/-- A quote opens a quotation, or ends one, for both readers, unless it stands in a comment. -/
theorem Zone.quote_after {zone : Zone} {c : Char} {following : Option Char}
    (h : zone.around c following = .comment → c ≠ '\'' ∧ c ≠ '"') :
    quoteAfter zone.quote? c = (zone.after c following).quote? := by
  cases zone with
  | code =>
      by_cases hq : c = '\'' ∨ c = '"'
      · simp [quoteAfter, quote?, after, hq]
      · by_cases hc : c = '-' ∧ following = some '-'
        · simp [quoteAfter, quote?, after, hc]
        · simp [quoteAfter, quote?, after, hq, hc]
  | quoted q =>
      by_cases hc : c = q
      · simp [quoteAfter, quote?, after, hc]
      · simp [quoteAfter, quote?, after, hc]
  | comment =>
      obtain ⟨hs, hd⟩ := h rfl
      by_cases hc : c = '\n'
      · simp [quoteAfter, quote?, after, hc]
      · simp [quoteAfter, quote?, after, hs, hd, hc]

/-- No comment has a quote in front of this position. -/
def Undisturbed (zoned : List (Char × Zone)) (i : Nat) : Prop :=
  ∀ p ∈ zoned.take i, p.2 = .comment → p.1 ≠ '\'' ∧ p.1 ≠ '"'

/-- As long as no comment has a quote, a placeholder stands in quotes exactly if a quote is open. -/
theorem quote_at_marker {zone : Zone} {text : List Char} {i : Nat} (hm : IsMarker text i)
    (hu : Undisturbed (layoutFrom zone text) i) :
    ∃ z, (layoutFrom zone text)[i]? = some ('$', z) ∧
      (text.take i).foldl quoteAfter zone.quote? = z.quote? := by
  induction text generalizing zone i with
  | nil => cases hm.1
  | cons c rest ih =>
      cases i with
      | zero =>
          have hc : c = '$' := by simpa using hm.1
          subst hc
          refine ⟨_, rfl, ?_⟩
          cases zone with
          | code => simp [Zone.around, Zone.after, Zone.quote?]
          | quoted q => rfl
          | comment => rfl
      | succ i =>
          rw [layoutFrom, Undisturbed, List.take_succ_cons, List.forall_mem_cons] at hu
          obtain ⟨here, hu⟩ := hu
          rw [List.take_succ_cons, List.foldl_cons, Zone.quote_after here]
          exact ih hm hu

theorem openQuote_iff {text : List Char} {i : Nat} (hm : IsMarker text i)
    (hu : Undisturbed (layout text) i) :
    openQuote text i = none ↔ zoneAt text i = some .code ∨ zoneAt text i = some .comment := by
  obtain ⟨zone, hz, hq⟩ := quote_at_marker hm hu
  have hq : openQuote text i = zone.quote? := hq
  have hz : zoneAt text i = some zone := by rw [zoneAt, layout, hz, Option.map_some]
  rw [hq, hz]
  cases zone <;> simp [Zone.quote?]

/-- The text is written with `?` for the `$` of exactly the placeholders in code. -/
def NumbersCode (text written : List Char) : Prop :=
  ∀ i, written[i]? =
    if IsMarker text i ∧ zoneAt text i = some .code then some '?' else text[i]?

theorem numbersCode_iff (sql : String) :
    NumbersCode sql.toList (numberedPlaceholders sql).toList ↔
      ∀ i, IsMarker sql.toList i →
        (openQuote sql.toList i = none ↔ zoneAt sql.toList i = some .code) := by
  refine forall_congr' fun i => ?_
  rw [numbered_get]
  by_cases hm : IsMarker sql.toList i
  · have kept : sql.toList[i]? ≠ some '?' := by
      rw [hm.1]
      decide
    by_cases ho : openQuote sql.toList i = none <;>
      by_cases hz : zoneAt sql.toList i = some .code <;> simp [hm, ho, hz, kept, kept.symm]
  · simp [hm]

/-- Numbering the placeholders writes `?` for the `$` of those in front of which no quote is open,
comments or not, and keeps every other character in its place. As long as no comment has a quote,
these are the placeholders outside quotes, those in comments included. So exactly those in code are
rewritten if for each of them no quote is open exactly if it stands in code, and in particular if
no comment has a quote or a `$`. -/
theorem numbered_outside_quotes (sql : String) :
    let text := sql.toList
    let written := (numberedPlaceholders sql).toList
    (∀ i, written[i]? =
        if IsMarker text i ∧ openQuote text i = none then some '?' else text[i]?) ∧
      (∀ i, IsMarker text i → Undisturbed (layout text) i →
        (openQuote text i = none ↔
          zoneAt text i = some .code ∨ zoneAt text i = some .comment)) ∧
      (NumbersCode text written ↔
        ∀ i, IsMarker text i → (openQuote text i = none ↔ zoneAt text i = some .code)) ∧
      ((∀ p ∈ layout text, p.2 = .comment → p.1 ∉ ['\'', '"', '$']) →
        NumbersCode text written) := by
  intro text written
  refine ⟨numbered_get sql, fun i hm hu => openQuote_iff hm hu, numbersCode_iff sql, fun h => ?_⟩
  refine (numbersCode_iff sql).2 fun i hm => ?_
  have undisturbed : Undisturbed (layout text) i := fun p hp hc => by
    have := h p (List.mem_of_mem_take hp) hc
    simp only [List.mem_cons, not_or] at this
    exact ⟨this.1, this.2.1⟩
  obtain ⟨zone, hz, -⟩ := quote_at_marker hm undisturbed
  have outside : zoneAt text i ≠ some .comment := by
    intro hc
    rw [zoneAt, layout, hz, Option.map_some, Option.some.injEq] at hc
    exact h _ (List.mem_of_getElem? hz) hc (by simp)
  rw [openQuote_iff hm undisturbed]
  exact or_iff_left outside

/-- A quote in a comment hides the placeholders behind the comment, and a placeholder in a comment
is rewritten. -/
theorem comment_hides_placeholder :
    let text := "SELECT 1 -- it's\n, $1"
    let commented := "-- $1\nSELECT 1"
    numberedPlaceholders text = text ∧ zoneAt text.toList 19 = some .code ∧
      numberedPlaceholders commented = "-- ?1\nSELECT 1" ∧
      zoneAt commented.toList 3 = some .comment ∧
      ¬NumbersCode text.toList (numberedPlaceholders text).toList ∧
      ¬NumbersCode commented.toList (numberedPlaceholders commented).toList := by
  intro text commented
  refine ⟨by decide +kernel, by decide +kernel, by decide +kernel, by decide +kernel,
    fun h => ?_, fun h => ?_⟩
  · have there := (numbersCode_iff text).1 h 19
    exact absurd there (by decide +kernel)
  · have there := (numbersCode_iff commented).1 h 3
    exact absurd there (by decide +kernel)

end SqlWire.Sql
