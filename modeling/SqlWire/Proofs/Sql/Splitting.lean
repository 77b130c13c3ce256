import SqlWire.Proofs.Sql.Zones

/-!
# Statements of a query text

The statements of a text are what is left between its semicolons in code, less the parts that have
nothing but white space and comments. `Sql.splitting_loses_nothing` says so, and that a statement
is the only one of its own text.
-/

namespace SqlWire.Sql

/-- The part that is being read goes on with what the rest of the text begins with. -/
theorem piecesFrom_eq {zone : Zone} {text : List Char} {first : List (Char × Zone)}
    {others : List (List (Char × Zone))} (h : cuts (layoutFrom zone text) = first :: others)
    (piece : List Char) : piecesFrom zone piece text =
      (piece.reverse ++ first.map Prod.fst) :: others.map (List.map Prod.fst) := by
  induction text generalizing zone piece first others with
  | nil =>
      obtain ⟨rfl, rfl⟩ := List.cons.inj h
      simp [piecesFrom]
  | cons c rest ih =>
      rw [cuts_layoutFrom] at h
      rw [piecesFrom]
      split at h
      · next hs =>
          obtain ⟨rfl, rfl⟩ := List.cons.inj h
          obtain ⟨first, others, hcuts⟩ := exists_cuts (layout rest)
          rw [if_pos hs, ih hcuts, hcuts]
          simp
      · next hs =>
          obtain ⟨first', others', hcuts⟩ := exists_cuts (layoutFrom (zone.after c rest.head?) rest)
          rw [hcuts, List.modifyHead_cons] at h
          obtain ⟨rfl, rfl⟩ := List.cons.inj h
          rw [if_neg hs, ih hcuts]
          simp

theorem pieces_eq (text : List Char) :
    pieces text = (cuts (layout text)).map (List.map Prod.fst) := by
  obtain ⟨first, others, hcuts⟩ := exists_cuts (layout text)
  rw [pieces, piecesFrom_eq hcuts, hcuts]
  rfl

/-- Whether a character is neither white space nor part of a comment. -/
def isText (p : Char × Zone) : Bool :=
  !Text.isBlank p.1 && p.2 != .comment

/-- Whether a character belongs to a statement: it is text, and does not end a statement. -/
def isStatementText (p : Char × Zone) : Bool :=
  isText p && p != (';', .code)

/-- The test for text knows no quotes, and needs to know none: a quote in code is text itself. -/
theorem hasTextFrom_eq {zone : Zone} (hz : zone = .code ∨ zone = .comment) (text : List Char) :
    hasTextFrom (zone == .comment) text = (layoutFrom zone text).any isStatementText := by
  induction text generalizing zone with
  | nil => rfl
  | cons c rest ih =>
      have code : hasTextFrom false rest = (layoutFrom .code rest).any isStatementText :=
        ih (.inl rfl)
      have comment : hasTextFrom true rest = (layoutFrom .comment rest).any isStatementText :=
        ih (.inr rfl)
      rw [hasTextFrom, layoutFrom, List.any_cons]
      rcases hz with rfl | rfl
      · rw [if_neg (by decide)]
        by_cases hq : c = '\'' ∨ c = '"'
        · have quote : isSubstance c = true ∧ isStatementText (c, .quoted c) = true ∧ c ≠ '-' := by
            rcases hq with rfl | rfl <;> decide
          obtain ⟨substance, text, hyphen⟩ := quote
          simp [Zone.around, Zone.after, hq, substance, text, hyphen]
        · by_cases hc : c = '-' ∧ rest.head? = some '-'
          · have opening : isStatementText ('-', .comment) = false := by decide
            simp [Zone.around, Zone.after, hc, comment, opening]
          · have here : isStatementText (c, .code) = isSubstance c := by
              rw [Bool.eq_iff_iff]
              simp [isStatementText, isText, isSubstance]
            simp [Zone.around, Zone.after, hq, hc, code, here]
      · have commented : isStatementText (c, .comment) = false := by
          simp [isStatementText, isText]
        have stays : Zone.comment.around c rest.head? = .comment := rfl
        rw [if_pos (by decide), stays, commented, Bool.false_or]
        by_cases hc : c = '\n'
        · simp [Zone.after, hc, code]
        · have within : (c != '\n') = true := bne_iff_ne.2 hc
          simp [Zone.after, hc, within, comment]

theorem hasText_layout (text : List Char) : hasText text = (layout text).any isStatementText :=
  hasTextFrom_eq (.inl rfl) text

/-- A part between two semicolons in code has none itself. -/
theorem not_mem_cut {zoned cut : List (Char × Zone)} (h : cut ∈ cuts zoned) :
    (';', Zone.code) ∉ cut := by
  induction zoned generalizing cut with
  | nil =>
      rw [List.mem_singleton.1 h]
      exact List.not_mem_nil
  | cons p rest ih =>
      obtain ⟨first, others, hcuts⟩ := exists_cuts rest
      rw [cuts, List.splitOn_cons_eq_if_modifyHead, ← cuts] at h
      split at h
      · rcases List.mem_cons.1 h with rfl | h
        · exact List.not_mem_nil
        · exact ih h
      · next hp =>
          rw [hcuts, List.modifyHead_cons] at h
          rcases List.mem_cons.1 h with rfl | h
          · rw [List.mem_cons, not_or]
            exact ⟨fun he => hp (beq_iff_eq.2 he.symm), ih (hcuts ▸ List.mem_cons_self)⟩
          · exact ih (hcuts ▸ List.mem_cons_of_mem _ h)

/-- A part between two semicolons is dropped if it has nothing but white space and comments. -/
theorem hasText_cut {text : List Char} {cut : List (Char × Zone)} (h : cut ∈ cuts (layout text)) :
    hasText (cut.map Prod.fst) = cut.any isText := by
  rw [hasText_layout, layout_cut h, Bool.eq_iff_iff, List.any_eq_true, List.any_eq_true]
  refine exists_congr fun p => and_congr_right fun hp => ?_
  have other : (p != (';', Zone.code)) = true := bne_iff_ne.2 fun he => not_mem_cut h (he ▸ hp)
  rw [isStatementText, other, Bool.and_true]

theorem map_intercalate {α β : Type} (f : α → β) (separator : List α) (parts : List (List α)) :
    (separator.intercalate parts).map f =
      (separator.map f).intercalate (parts.map (List.map f)) := by
  induction parts with
  | nil => rfl
  | cons part parts ih =>
      cases parts with
      | nil => simp
      | cons next parts => simpa [List.intercalate_cons_cons] using ih

theorem statements_eq (sql : String) :
    statements sql = ((cuts (layout sql.toList)).filter (List.any · isText)).map
      fun cut => String.ofList (cut.map Prod.fst) := by
  rw [statements, pieces_eq, List.filter_map, List.map_map]
  congr 1
  refine List.filter_congr fun cut h => ?_
  exact hasText_cut h

/-- A part of a text with text in it is one statement. -/
theorem statements_cut {text : List Char} {cut : List (Char × Zone)} (h : cut ∈ cuts (layout text))
    (ht : cut.any isText = true) :
    statements (String.ofList (cut.map Prod.fst)) = [String.ofList (cut.map Prod.fst)] := by
  have whole : cuts cut = [cut] := List.splitOn_eq_singleton (not_mem_cut h)
  rw [statements_eq, String.toList_ofList, layout_cut h, whole]
  simp [ht]

/-- Splitting a query text loses no statement. Cut at every semicolon that stands outside quotes
and comments, the text is its parts joined by semicolons; its statements are, in their order, the
parts with a character that is neither white space nor part of a comment; and each of them is the
only statement of its own text. -/
theorem splitting_loses_nothing (sql : String) :
    let parts := (layout sql.toList).splitOn (';', Zone.code)
    [';'].intercalate (parts.map (List.map Prod.fst)) = sql.toList ∧
      statements sql =
        (parts.filter (List.any · isText)).map (fun part => String.ofList (part.map Prod.fst)) ∧
      ∀ statement ∈ statements sql, statements statement = [statement] := by
  intro parts
  refine ⟨?_, statements_eq sql, fun statement h => ?_⟩
  · have joined : [(';', Zone.code)].intercalate parts = layout sql.toList :=
      List.intercalate_splitOn (';', Zone.code)
    have text := congrArg (List.map Prod.fst) joined
    rwa [map_intercalate, layout, layoutFrom_text] at text
  · rw [statements_eq, List.mem_map] at h
    obtain ⟨cut, h, rfl⟩ := h
    obtain ⟨hcut, ht⟩ := List.mem_filter.1 h
    exact statements_cut hcut ht

theorem splitting_loses_nothing_quoted :
    let text := "SELECT 'a;b' -- ; c\n;; -- d;\n; SELECT 2;"
    statements text = ["SELECT 'a;b' -- ; c\n", " SELECT 2"] ∧
      ∀ statement ∈ statements text, statements statement = [statement] := by
  intro text
  exact ⟨by decide +kernel, (splitting_loses_nothing text).2.2⟩

end SqlWire.Sql
