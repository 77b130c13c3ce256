import SqlWire.Sql.Statements

/-!
# The zones of a query text

`Sql.layout` says of each character of a text where it stands: in code, in quotes or in a comment.
What is cut out of a text between two semicolons in code stands, read on its own, in the same zones
as inside the text.
-/

namespace SqlWire.Sql

/-- Where a character stands, by the zone in front of it and the character that follows. Quotes
stand in what they enclose, the hyphens of a comment in the comment that they open, and the end of
its line in the comment that it ends. -/
def Zone.around (zone : Zone) (c : Char) (following : Option Char) : Zone :=
  match zone with
  | code => code.after c following
  | zone => zone

def layoutFrom (zone : Zone) : List Char → List (Char × Zone)
  | [] => []
  | c :: rest => (c, zone.around c rest.head?) :: layoutFrom (zone.after c rest.head?) rest

def layout (text : List Char) : List (Char × Zone) :=
  layoutFrom .code text

@[simp] theorem layoutFrom_text (zone : Zone) (text : List Char) :
    (layoutFrom zone text).map Prod.fst = text := by
  induction text generalizing zone with
  | nil => rfl
  | cons c rest ih => simp [layoutFrom, ih]

/-- What follows a character matters only if it is a hyphen. -/
theorem Zone.after_congr {following following' : Option Char}
    (h : following = some '-' ↔ following' = some '-') (zone : Zone) (c : Char) :
    zone.after c following = zone.after c following' := by
  unfold after
  simp only [h]

theorem Zone.around_congr {following following' : Option Char}
    (h : following = some '-' ↔ following' = some '-') (zone : Zone) (c : Char) :
    zone.around c following = zone.around c following' := by
  unfold around
  split
  · exact after_congr h code c
  · rfl

/-- A semicolon in code is a semicolon in front of which there is code. -/
theorem Zone.around_semicolon (zone : Zone) (c : Char) (following : Option Char) :
    (c, zone.around c following) = (';', .code) ↔ zone = .code ∧ c = ';' := by
  constructor
  · intro h
    obtain ⟨rfl, hz⟩ := Prod.mk.injEq .. ▸ h
    cases zone with
    | code => exact ⟨rfl, rfl⟩
    | quoted q => cases hz
    | comment => cases hz
  · rintro ⟨rfl, rfl⟩
    rfl

abbrev cuts (zoned : List (Char × Zone)) : List (List (Char × Zone)) :=
  zoned.splitOn (';', .code)

theorem exists_cuts (zoned : List (Char × Zone)) :
    ∃ first others, cuts zoned = first :: others :=
  List.exists_cons_of_ne_nil (List.splitOn_ne_nil _ _)

/-- One character more, of the text in front of which a zone is given. -/
theorem cuts_layoutFrom (zone : Zone) (c : Char) (rest : List Char) :
    cuts (layoutFrom zone (c :: rest)) =
      if zone = .code ∧ c = ';' then [] :: cuts (layout rest)
      else (cuts (layoutFrom (zone.after c rest.head?) rest)).modifyHead
        ((c, zone.around c rest.head?) :: ·) := by
  have separates : ((c, zone.around c rest.head?) == (';', Zone.code)) =
      decide (zone = .code ∧ c = ';') := by
    rw [Bool.eq_iff_iff, beq_iff_eq, decide_eq_true_iff]
    exact zone.around_semicolon c rest.head?
  rw [cuts, layoutFrom, List.splitOn_cons_eq_if_modifyHead, separates]
  split
  · next h =>
      obtain ⟨rfl, rfl⟩ := of_decide_eq_true h
      rw [if_pos ⟨rfl, rfl⟩]
      rfl
  · next h => rw [if_neg (of_decide_eq_false (Bool.eq_false_iff.2 h))]

/-- The first part of a text, read where the text begins, and every other part, read on its own,
stand in the zones in which they stand in the text. The first part is followed by a hyphen only if
the text begins with one. -/
theorem cuts_zones (zone : Zone) (text : List Char) :
    ∃ first others, cuts (layoutFrom zone text) = first :: others ∧
      layoutFrom zone (first.map Prod.fst) = first ∧
      (∀ cut ∈ others, layout (cut.map Prod.fst) = cut) ∧
      ((first.map Prod.fst).head? = some '-' ↔ text.head? = some '-') := by
  induction text generalizing zone with
  | nil => exact ⟨[], [], rfl, rfl, by simp, Iff.rfl⟩
  | cons c rest ih =>
      rw [cuts_layoutFrom]
      split
      · next h =>
          obtain ⟨rfl, rfl⟩ := h
          obtain ⟨first, others, hcuts, hfirst, hothers, -⟩ := ih .code
          refine ⟨[], first :: others, by rw [← hcuts]; rfl, rfl, ?_, by simp⟩
          exact List.forall_mem_cons.2 ⟨hfirst, hothers⟩
      · next h =>
          obtain ⟨first, others, hcuts, hfirst, hothers, hhead⟩ := ih (zone.after c rest.head?)
          refine ⟨(c, zone.around c rest.head?) :: first, others, ?_, ?_, hothers, by simp⟩
          · rw [hcuts, List.modifyHead_cons]
          · rw [List.map_cons, layoutFrom, Zone.around_congr hhead, Zone.after_congr hhead, hfirst]

/-- A part of a text stands in the same zones when it is read on its own. -/
theorem layout_cut {text : List Char} {cut : List (Char × Zone)} (h : cut ∈ cuts (layout text)) :
    layout (cut.map Prod.fst) = cut := by
  obtain ⟨first, others, hcuts, hfirst, hothers, -⟩ := cuts_zones .code text
  unfold layout at h
  rw [hcuts] at h
  rcases List.mem_cons.1 h with rfl | h
  · exact hfirst
  · exact hothers cut h

end SqlWire.Sql
