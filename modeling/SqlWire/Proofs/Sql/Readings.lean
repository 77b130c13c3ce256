import SqlWire.Proofs.Sql.Splitting
import SqlWire.Proofs.Sql.Words

/-!
# The kind of a text and of its statement

A text with one statement may have more in it: semicolons and comments behind the statement, and
in front of it. `Sql.Misread` says in which texts these hide the kind of the statement from one
who reads the text as a whole.
-/

namespace SqlWire

namespace Sql

/-! ## Texts without a statement -/

/-- Text that is no semicolon in code stands in one of the parts between them. -/
theorem any_cuts (zoned : List (Char × Zone)) :
    zoned.any isStatementText = (cuts zoned).any (List.any · isText) := by
  induction zoned with
  | nil => rfl
  | cons p rest ih =>
      rw [cuts, List.splitOn_cons_eq_if_modifyHead, List.any_cons, ih]
      obtain ⟨first, others, hcuts⟩ := exists_cuts rest
      by_cases hp : p = (';', Zone.code)
      · have ends : isStatementText p = false := by rw [hp]; decide
        rw [ends, if_pos (beq_iff_eq.2 hp)]
        rfl
      · have other : (p != (';', Zone.code)) = true := bne_iff_ne.2 hp
        rw [if_neg (by rwa [beq_iff_eq]), ← cuts, hcuts, isStatementText, other]
        simp [Bool.or_assoc]

/-- A text has something in it if one of its pieces has. -/
theorem hasText_pieces (text : List Char) : hasText text = (pieces text).any hasText := by
  rw [hasText_layout, any_cuts, pieces_eq, List.any_map, Bool.eq_iff_iff, List.any_eq_true,
    List.any_eq_true]
  exact exists_congr fun cut => and_congr_right fun h => by rw [Function.comp_apply, hasText_cut h]

theorem statements_eq_nil (sql : String) : statements sql = [] ↔ hasText sql.toList = false := by
  rw [statements, List.map_eq_nil_iff, List.filter_eq_nil_iff, hasText_pieces, List.any_eq_false]

theorem Zone.after_eq_comment {zone : Zone} (hz : zone ≠ .comment) {c : Char}
    {following : Option Char} (h : zone.after c following = .comment) : c = '-' := by
  cases zone with
  | comment => exact absurd rfl hz
  | quoted q =>
      dsimp only [after] at h
      split at h <;> cases h
  | code =>
      dsimp only [after] at h
      split at h
      · cases h
      · split at h
        · next hc => exact hc.1
        · cases h

/-- A comment has a hyphen to open it. -/
theorem hyphen_mem_of_comment {zone : Zone} (hz : zone ≠ .comment) {text : List Char} {c : Char}
    (h : (c, Zone.comment) ∈ layoutFrom zone text) : '-' ∈ text := by
  induction text generalizing zone with
  | nil => cases h
  | cons d rest ih =>
      by_cases hd : zone.after d rest.head? = .comment
      · rw [Zone.after_eq_comment hz hd]
        exact List.mem_cons_self
      · rcases List.mem_cons.1 h with h | h
        · cases zone with
          | comment => exact absurd rfl hz
          | quoted q => cases h
          | code => exact absurd (Prod.mk.injEq .. ▸ h).2.symm hd
        · exact List.mem_cons_of_mem d (ih hd h)

/-- What has text in it has a character that is neither white space nor a semicolon. -/
theorem any_isSubstance {inComment : Bool} {text : List Char}
    (h : hasTextFrom inComment text = true) : text.any isSubstance = true := by
  induction text generalizing inComment with
  | nil => cases h
  | cons c rest ih =>
      rw [List.any_cons, Bool.or_eq_true]
      unfold hasTextFrom at h
      split at h
      · exact .inr (ih h)
      · split at h
        · exact .inr (ih h)
        · exact (Bool.or_eq_true_iff.1 h).imp id ih

/-- A text of white space and semicolons has no statement in it, nor has one with comments
besides. -/
theorem isEmptyQuery_iff (sql : String) :
    isEmptyQuery sql = true ↔
      statements sql = [] ∧ ∀ p ∈ layout sql.toList, p.2 ≠ Zone.comment := by
  rw [statements_eq_nil, isEmptyQuery, Bool.not_eq_true']
  constructor
  · intro h
    refine ⟨Bool.eq_false_iff.2 fun text => ?_, ?_⟩
    · rw [any_isSubstance text] at h
      cases h
    · rintro ⟨c, zone⟩ hp rfl
      have hyphen := hyphen_mem_of_comment (by decide) hp
      have substance := List.any_eq_false.1 h '-' hyphen
      exact substance (by decide)
  · rintro ⟨textless, uncommented⟩
    rw [List.any_eq_false]
    intro c hc
    rw [← layoutFrom_text .code sql.toList, List.mem_map] at hc
    obtain ⟨p, hp, rfl⟩ := hc
    rw [hasText_layout, List.any_eq_false] at textless
    have none := textless p hp
    have code := uncommented p hp
    simp only [isStatementText, isText, Bool.and_eq_true, bne_iff_ne, ne_eq, code,
      not_false_eq_true, and_true, not_and, not_not] at none
    intro substance
    simp only [isSubstance, Bool.not_eq_true', Bool.or_eq_false_iff] at substance
    have semicolon := none (by rw [substance.1]; rfl)
    rw [semicolon] at substance
    exact absurd substance.2 (by decide)

/-- A text with nothing in it begins with a comment, or with white space or a semicolon in front of
such a text. -/
theorem textless_cons {c : Char} {rest : List Char} (h : hasText (c :: rest) = false) :
    c = '-' ∧ rest.head? = some '-' ∨
      (Text.isBlank c = true ∨ c = ';') ∧ hasText rest = false := by
  unfold hasText hasTextFrom at h
  rw [if_neg Bool.false_ne_true] at h
  split at h
  · next hc => exact .inl hc
  · obtain ⟨hc, hrest⟩ := Bool.or_eq_false_iff.1 h
    rw [isSubstance, Bool.not_eq_false', Bool.or_eq_true, beq_iff_eq] at hc
    exact .inr ⟨hc, hrest⟩

/-- White space aside, a text with nothing in it begins with a semicolon or a comment. -/
theorem textless_head {text : List Char} (h : hasText text = false) :
    ∀ c ∈ (text.dropWhile Text.isBlank).head?, c = ';' ∨ c = '-' := by
  induction text with
  | nil => simp
  | cons c rest ih =>
      rw [List.dropWhile_cons]
      rcases textless_cons h with ⟨rfl, -⟩ | ⟨hc, hrest⟩
      · have hyphen : Text.isBlank '-' = false := by decide
        simp [hyphen]
      · split
        · exact ih hrest
        · next hb => simp [hc.resolve_left hb]

/-- A word at the front of a text with nothing in it is made of semicolons, unless they run into a
comment. -/
theorem textless_word {text : List Char} (h : hasText text = false) :
    (∃ semicolons rest, (∀ c ∈ semicolons, c = ';') ∧ text = semicolons ++ '-' :: '-' :: rest) ∨
      (∀ c ∈ text.takeWhile (!Text.isBlank ·), c = ';') ∧
        hasText (text.dropWhile (!Text.isBlank ·)) = false := by
  induction text with
  | nil => exact .inr ⟨by simp, rfl⟩
  | cons c rest ih =>
      rcases textless_cons h with ⟨rfl, hr⟩ | ⟨hc, hrest⟩
      · obtain ⟨rest, rfl⟩ := List.head?_eq_some_iff.1 hr
        exact .inl ⟨[], rest, by simp, rfl⟩
      · rw [List.takeWhile_cons, List.dropWhile_cons]
        cases hb : Text.isBlank c with
        | true => exact .inr ⟨by simp, h⟩
        | false =>
            have semicolon : c = ';' := hc.resolve_left (by simp [hb])
            refine (ih hrest).imp ?_ ?_
            · rintro ⟨semicolons, more, hs, rfl⟩
              exact ⟨c :: semicolons, more, List.forall_mem_cons.2 ⟨semicolon, hs⟩, rfl⟩
            · rintro ⟨hs, hm⟩
              exact ⟨List.forall_mem_cons.2 ⟨semicolon, hs⟩, hm⟩

/-- The first piece of a text is the text, or a semicolon follows and the other pieces. -/
theorem pieces_cons {text piece : List Char} {others : List (List Char)}
    (h : pieces text = piece :: others) :
    others = [] ∧ text = piece ∨ ∃ rest, text = piece ++ ';' :: rest ∧ pieces rest = others := by
  have from_zone (zone : Zone) (begun text : List Char)
      (h : piecesFrom zone begun text = piece :: others) :
      others = [] ∧ begun.reverse ++ text = piece ∨
        ∃ rest, begun.reverse ++ text = piece ++ ';' :: rest ∧ pieces rest = others := by
    induction text generalizing zone begun with
    | nil =>
        obtain ⟨rfl, rfl⟩ := List.cons.inj h
        exact .inl ⟨rfl, List.append_nil _⟩
    | cons c rest ih =>
        unfold piecesFrom at h
        split at h
        · next hc =>
            obtain ⟨-, rfl⟩ := hc
            obtain ⟨rfl, rfl⟩ := List.cons.inj h
            exact .inr ⟨rest, rfl, rfl⟩
        · have onward := ih _ _ h
          rwa [List.reverse_cons, List.append_assoc] at onward
  exact from_zone .code [] text h

/-! ## The first words -/

/-- The first word of a text with nothing in it begins with a semicolon or a hyphen. -/
theorem textless_firstWord {text : List Char} (h : hasText text = false) :
    ∀ c ∈ (Text.firstWord text).head?, c = ';' ∨ c = '-' := by
  have head := textless_head h
  unfold Text.firstWord
  cases hd : text.dropWhile Text.isBlank with
  | nil => simp
  | cons c rest =>
      rw [hd] at head
      simpa [Text.blank_ends hd] using head

/-- What has text in it has a first word. -/
theorem firstWord_ne_nil {text : List Char} (h : hasText text = true) :
    Text.firstWord text ≠ [] := by
  intro none
  obtain ⟨c, hc, substance⟩ := List.any_eq_true.1 (any_isSubstance h)
  have blank := List.dropWhile_eq_nil_iff.1 (Text.firstWord_eq_nil.1 none) c hc
  rw [isSubstance, blank] at substance
  cases substance

/-- A semicolon has nothing in it. -/
theorem hasText_semicolon (text : List Char) : hasText (';' :: text) = hasText text := by
  have none : isSubstance ';' = false := by decide
  simp [hasText, hasTextFrom, none]

theorem not_to {word : List Char} {c : Char} (h : c ∈ word) (hc : c = ';' ∨ c = '-') :
    Text.upper (String.ofList word) ≠ "TO" := by
  intro hto
  have there := Text.mem_upper h
  rw [hto] at there
  rcases hc with rfl | rfl
  all_goals exact absurd there (by decide)

theorem not_to_textless {text : List Char} (h : hasText text = false) :
    Text.upper (String.ofList (Text.firstWord text)) ≠ "TO" := by
  have head := textless_firstWord h
  cases hw : Text.firstWord text with
  | nil => decide
  | cons c word =>
      rw [hw] at head
      exact not_to List.mem_cons_self (head c rfl)

/-! ## Misreadings -/

/-- The text as a whole is taken to be of another kind than the one statement in it. -/
inductive Misread (text statement : String) : Prop
  /-- The statement stands behind a semicolon. -/
  | behind {front rest : List Char} (ht : text.toList = front ++ ';' :: rest)
      (hf : hasText front = false) (hk : SqlKind.ofText statement ≠ .other)
  /-- Its only word runs into a comment behind a semicolon. -/
  | commented {semicolons rest : List Char} (hs : ∀ c ∈ semicolons, c = ';')
      (ht : text.toList = statement.toList ++ ';' :: (semicolons ++ '-' :: '-' :: rest))
      (hb : Text.behindWord statement.toList = []) (hk : SqlKind.ofText statement ≠ .other)
  /-- It ends with the `TO` of a rollback, which runs into a semicolon. -/
  | savepoint {rest : List Char} (ht : text.toList = statement.toList ++ ';' :: rest)
      (hv : SqlKind.keyword (String.ofList (Text.firstWord statement.toList)) ∈
        ["ROLLBACK", "ABORT"])
      (hto : Text.upper (String.ofList
        (Text.firstWord (Text.behindWord statement.toList))) = "TO")
      (hb : Text.behindWord (Text.behindWord statement.toList) = [])

/-- Nothing is known of a text whose statement stands behind a semicolon. -/
theorem ofText_behind {sql : String} {front rest : List Char}
    (ht : sql.toList = front ++ ';' :: rest) (hf : hasText front = false) :
    SqlKind.ofText sql = .other := by
  have head : ∃ c word, Text.firstWord sql.toList = c :: word ∧ (c = ';' ∨ c = '-') := by
    rw [ht]
    cases hw : Text.firstWord front with
    | nil =>
        have semicolon : Text.isBlank ';' = false := by decide
        rw [(Text.front_append_blank hw _).1]
        exact ⟨';', rest.takeWhile (!Text.isBlank ·), by simp [Text.firstWord, semicolon],
          .inl rfl⟩
    | cons c word =>
        have goes : Text.firstWord front <+: Text.firstWord (front ++ ';' :: rest) :=
          Text.firstWord_prefix (by rw [hw]; exact List.cons_ne_nil c word) _
        rw [hw] at goes
        obtain ⟨more, hmore⟩ := goes
        have first := textless_firstWord hf c (by rw [hw]; rfl)
        exact ⟨c, word ++ more, hmore.symm, first⟩
  obtain ⟨c, word, hw, hc⟩ := head
  rw [SqlKind.ofText_front, hw]
  rcases hc with rfl | rfl
  · exact SqlKind.ofWords_semicolon word _
  · exact SqlKind.ofWords_hyphen List.mem_cons_self _

/-- Nothing is known of a statement whose only word runs into a comment. -/
theorem ofText_commented {sql : String} {front semicolons rest : List Char}
    (hs : ∀ c ∈ semicolons, c = ';')
    (ht : sql.toList = front ++ (semicolons ++ '-' :: '-' :: rest))
    (hf : Text.firstWord front ≠ []) (hb : Text.behindWord front = []) :
    SqlKind.ofText sql = .other := by
  have plain : Text.isBlank ';' = false ∧ Text.isBlank '-' = false := by decide
  have inside : ∀ c ∈ semicolons, (!Text.isBlank c) = true := fun c hc => by
    rw [hs c hc, plain.1]
    rfl
  rw [SqlKind.ofText_front, ht, (Text.front_append_word hf hb _).1,
    List.takeWhile_append_of_pos inside]
  refine SqlKind.ofWords_hyphen ?_ _
  simp [plain]

/-- In a text that goes on behind the statement with a semicolon, what follows the first word
follows it in the statement too, or has nothing in it. -/
theorem ofText_semicolon {sql statement : String} {rest : List Char}
    (ht : sql.toList = statement.toList ++ ';' :: rest) (hs : hasText statement.toList = true)
    (hr : hasText rest = false) (hm : ¬Misread sql statement) :
    SqlKind.ofText sql = SqlKind.ofText statement := by
  have filled := firstWord_ne_nil hs
  have textless : hasText (';' :: rest) = false := (hasText_semicolon rest).trans hr
  have blank : Text.upper (String.ofList []) ≠ "TO" := by decide
  by_cases hb : Text.behindWord statement.toList = []
  · -- the statement is one word, and white space at most in front of it
    obtain ⟨hword, hbehind⟩ := Text.front_append_word filled hb (';' :: rest)
    rcases textless_word textless with ⟨semicolons, more, hsemi, he⟩ | ⟨hsemi, hmore⟩
    · have other := ofText_commented hsemi (he ▸ ht) filled hb
      rw [other]
      by_contra known
      cases semicolons with
      | nil => cases he
      | cons c semicolons =>
          obtain ⟨rfl, rfl⟩ := List.cons.inj he
          exact hm (.commented (List.forall_mem_cons.1 hsemi).2 ht hb (Ne.symm known))
    · rw [SqlKind.ofText_front, SqlKind.ofText_front statement, ht, hword, hbehind, hb]
      exact SqlKind.ofWords_congr (SqlKind.keyword_semicolons _ hsemi)
        (iff_of_false (not_to_textless hmore) blank)
  · obtain ⟨hword, hbehind⟩ := Text.front_append_behind hb (';' :: rest)
    rw [SqlKind.ofText_front, SqlKind.ofText_front statement, ht, hword, hbehind]
    by_cases hw : Text.firstWord (Text.behindWord statement.toList) = []
    · rw [(Text.front_append_blank hw _).1, hw]
      exact SqlKind.ofWords_congr rfl (iff_of_false (not_to_textless textless) blank)
    · by_cases hb₂ : Text.behindWord (Text.behindWord statement.toList) = []
      · by_cases hv : SqlKind.keyword (String.ofList (Text.firstWord statement.toList)) ∈
          ["ROLLBACK", "ABORT"]
        · have semicolon : Text.isBlank ';' = false := by decide
          rw [(Text.front_append_word hw hb₂ _).1]
          refine SqlKind.ofWords_congr rfl (iff_of_false (not_to (c := ';') ?_ (.inl rfl)) ?_)
          · simp [semicolon]
          · exact fun hto => hm (.savepoint ht hv hto hb₂)
        · exact SqlKind.ofWords_alone hv _ _
      · rw [(Text.front_append_behind hb₂ _).1]

/-- What is misread is of another kind. -/
theorem Misread.differs {sql statement : String} (h : Misread sql statement) :
    SqlKind.ofText sql ≠ SqlKind.ofText statement := by
  have known_word (hk : SqlKind.ofText statement ≠ .other) :
      Text.firstWord statement.toList ≠ [] := by
    intro none
    rw [SqlKind.ofText_front, none] at hk
    exact hk (SqlKind.ofWords_cons_unknown (by decide) _)
  cases h with
  | behind ht hf hk =>
      rw [ofText_behind ht hf]
      exact hk.symm
  | @commented semicolons rest hs ht hb hk =>
      have hs' : ∀ c ∈ ';' :: semicolons, c = ';' := List.forall_mem_cons.2 ⟨rfl, hs⟩
      rw [ofText_commented hs' ht (known_word hk) hb]
      exact hk.symm
  | @savepoint rest ht hv hto hb =>
      have filled : Text.firstWord (Text.behindWord statement.toList) ≠ [] := by
        intro none
        rw [none] at hto
        exact absurd hto (by decide)
      have behind : Text.behindWord statement.toList ≠ [] := by
        intro none
        rw [none] at filled
        exact filled rfl
      have semicolon : Text.isBlank ';' = false := by decide
      obtain ⟨hword, hbehind⟩ := Text.front_append_behind behind (';' :: rest)
      have ends : Text.upper (String.ofList (Text.firstWord (Text.behindWord sql.toList))) ≠
          "TO" := by
        rw [ht, hbehind, (Text.front_append_word filled hb _).1]
        exact not_to (c := ';') (by simp [semicolon]) (.inl rfl)
      rw [SqlKind.ofText_front, SqlKind.ofText_front statement,
        SqlKind.ofWords_rollback hv, if_pos hto, ht, hword, ← ht, SqlKind.ofWords_rollback hv,
        if_neg ends]
      decide

/-- A text with one statement is of the kind of the statement exactly if it is not misread. -/
theorem ofText_statement {sql statement : String} (h : statements sql = [statement]) :
    SqlKind.ofText sql = SqlKind.ofText statement ↔ ¬Misread sql statement := by
  refine ⟨fun same misread => misread.differs same, fun hm => ?_⟩
  obtain ⟨piece, hkept, rfl⟩ := List.map_eq_singleton_iff.1 h
  obtain ⟨first, others, hpieces⟩ : ∃ first others, pieces sql.toList = first :: others := by
    refine List.exists_cons_of_ne_nil fun none => ?_
    rw [none] at hkept
    cases hkept
  rw [hpieces, List.filter_cons] at hkept
  have cut := pieces_cons hpieces
  cases hf : hasText first with
  | false =>
      rw [hf, if_neg Bool.false_ne_true] at hkept
      rcases cut with ⟨rfl, -⟩ | ⟨rest, ht, -⟩
      · cases hkept
      · rw [ofText_behind ht hf]
        by_contra known
        exact hm (.behind ht hf (Ne.symm known))
  | true =>
      rw [hf, if_pos rfl] at hkept
      obtain ⟨rfl, hothers⟩ := List.cons.inj hkept
      rcases cut with ⟨-, whole⟩ | ⟨rest, ht, hrest⟩
      · rw [← whole, String.ofList_toList]
      · have textless : hasText rest = false := by
          rw [hasText_pieces, hrest, List.any_eq_false]
          exact List.filter_eq_nil_iff.1 hothers
        exact ofText_semicolon (by rw [String.toList_ofList, ht])
          (by rw [String.toList_ofList, hf]) textless hm

end Sql

end SqlWire
