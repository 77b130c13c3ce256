import SqlWire.Proofs.Client.Pulling

/-!
# What a cursor has handed out

As long as its result is open, a cursor has handed out all the rows of it that were read
(`Cursor.Live`). Once the result is open no more, it hands out nothing further (`Cursor.Gone`).
-/

namespace SqlWire

namespace Cursor

open Connection

section

variable {σ : Type} {start : Bytes} {id : Nat} {columns : List Column} {rows : List Row}
  {s : Cursor × Connection (Traced σ)}

/-- The cursor's result is open, and the cursor has handed out all of it that was read. -/
structure Live (start : Bytes) (id : Nat) (columns : List Column) (rows : List Row)
    (s : Cursor × Connection (Traced σ)) : Prop where
  holds : s.1.state = .pending id
  untagged : s.1.tag = none
  status : s.2.status = .streaming id columns
  read : ∃ w ms, Spells w ms ∧ s.2.heard = start ++ w ++ s.2.buffer ∧
    (∀ m ∈ ms, m.endsResult = false) ∧ rows = resultRows columns ms

structure Gone (start : Bytes) (id : Nat) (columns : List Column) (rows : List Row)
    (s : Cursor × Connection (Traced σ)) : Prop where
  holds : ∀ id', s.1.state = .pending id' →
    id' = id ∧ ∀ columns, s.2.status ≠ .streaming id columns
  rowsOf : RowsOf start columns s.1.tag rows s.2.heard

def Handed (start : Bytes) (id : Nat) (columns : List Column) (rows : List Row)
    (s : Cursor × Connection (Traced σ)) : Prop :=
  Live start id columns rows s ∨ Gone start id columns rows s

theorem Live.rowsOf (h : Live start id columns rows s) :
    RowsOf start columns s.1.tag rows s.2.heard := by
  obtain ⟨w, ms, hw, hh, -, rfl⟩ := h.read
  exact ⟨w, ms, _, hh, hw, List.prefix_refl _, by simp [h.untagged]⟩

theorem Handed.rowsOf (h : Handed start id columns rows s) :
    RowsOf start columns s.1.tag rows s.2.heard :=
  h.elim Live.rowsOf Gone.rowsOf

def Fetched (start : Bytes) (id : Nat) (columns : List Column) (rows : List Row) :
    Option Row → Cursor × Connection (Traced σ) → Prop
  | some row, s => Live start id columns (rows ++ [row]) s
  | none, s => Gone start id columns rows s

variable [Channel σ]

theorem Live.next {k k' : Cursor} {c c' : Connection (Traced σ)} {row : Row}
    (h : Live start id columns rows (k, c)) (hp : Pulled columns c (.row row) c')
    (hs : k'.state = k.state) (ht : k'.tag = k.tag) :
    Live start id columns (rows ++ [row]) (k', c') := by
  obtain ⟨w, ms, hw, hh, hms, rfl⟩ := h.read
  cases hp with
  | @row c₁ c₂ _ asides values _ hc ha hr hsame hrow =>
      have hc₁ : c₁.heard = (start ++ w) ++ c₁.buffer := by
        rw [hc.heard, hc.buffer]
        exact hh
      obtain ⟨w', hw', hh'⟩ := hr.spelled hc₁
      have hplain : ∀ a ∈ asides, a.endsResult = false :=
        fun a h => not_endsResult_of_aside (ha a h)
      refine ⟨hs.trans h.holds, ht.trans h.untagged, ?_, w ++ w',
        ms ++ (asides ++ [.dataRow values]), hw.append hw', ?_, ?_, ?_⟩
      · exact hsame.status.trans (hr.frame.status.trans (hc.status.trans h.status))
      · change c'.heard = start ++ (w ++ w') ++ c'.buffer
        rw [hsame.heard, hsame.buffer, hh', List.append_assoc start]
      · have hlast : ∀ m ∈ [BackendMessage.dataRow values], m.endsResult = false := by
          simp [BackendMessage.endsResult]
        exact List.forall_mem_append.2 ⟨hms, List.forall_mem_append.2 ⟨hplain, hlast⟩⟩
      · have hlast : resultRows columns [.dataRow values] = [row] := by
          simp [resultRows, BackendMessage.endsResult, hrow]
        rw [resultRows_append hms, resultRows_append hplain, resultRows_asides ha, hlast,
          List.nil_append]

theorem Live.last {k k' : Cursor} {c c' : Connection (Traced σ)} {tag : Option String}
    (h : Live start id columns rows (k, c)) (hp : Pulled columns c (.finished tag) c')
    (hs : k'.state = .exhausted) : Gone start id columns rows (k', c') := by
  obtain ⟨w, ms, hw, hh, hms, rfl⟩ := h.read
  cases hp with
  | @finished c₁ c₂ _ asides rest m hc ha hm hr _ hb hheard =>
      have hc₁ : c₁.heard = (start ++ w) ++ c₁.buffer := by
        rw [hc.heard, hc.buffer]
        exact hh
      obtain ⟨w', hw', hh'⟩ := hr.spelled hc₁
      have hall : resultRows columns (ms ++ (asides ++ m :: rest)) = resultRows columns ms := by
        have hplain : ∀ a ∈ asides, a.endsResult = false :=
          fun a h => not_endsResult_of_aside (ha a h)
        have hend : resultRows columns (m :: rest) = [] := by simp [resultRows, hm]
        rw [resultRows_append hms, resultRows_append hplain, resultRows_asides ha, hend]
        simp
      refine ⟨fun id' h => ?_, w ++ w', ms ++ (asides ++ m :: rest), c'.buffer, ?_,
        hw.append hw', ?_, fun _ => ⟨hall.symm, m, by simp, hm⟩⟩
      · rw [hs] at h
        cases h
      · change c'.heard = start ++ (w ++ w') ++ c'.buffer
        rw [hheard, hb, hh', List.append_assoc start]
      · simp [hall]

omit [Channel σ] in
theorem Live.stop {k k' : Cursor} {c c' : Connection (Traced σ)}
    (h : Live start id columns rows (k, c)) (hp : Stopped c c') (hs : k'.state = .exhausted)
    (ht : k'.tag = k.tag) : Gone start id columns rows (k', c') := by
  have hr := h.rowsOf.longer hp.1
  refine ⟨fun id' h => ?_, ?_⟩
  · rw [hs] at h
    cases h
  · rw [ht]
    exact hr

theorem fetch_live :
    Ensures (Live start id columns rows) (fetch : CursorAction (Traced σ) (Option Row))
      (Fetched start id columns rows)
      (fun _ s => Gone start id columns rows s ∧ s.1.tag = none) := by
  constructor
  intro s h
  obtain ⟨k, c⟩ := s
  have hpull := (nextRow_pulls h.status).run c rfl
  have hk : k.state = .pending id := h.holds
  unfold fetch
  dsimp only
  rw [hk]
  dsimp only
  rcases hr : Connection.nextRow id c with ⟨e | row | tag, c'⟩
  · rw [hr] at hpull
    exact ⟨h.stop hpull rfl rfl, h.untagged⟩
  · rw [hr] at hpull
    exact h.next hpull hk.symm rfl
  · rw [hr] at hpull
    exact h.last hpull rfl

theorem fetch_gone :
    Ensures (Gone start id columns rows) (fetch : CursorAction (Traced σ) (Option Row))
      (fun r s => r = none ∧ Gone start id columns rows s)
      (fun _ => Gone start id columns rows) := by
  constructor
  intro s h
  obtain ⟨k, c⟩ := s
  have exhausted (k' : Cursor) (hs : k'.state = .exhausted) (ht : k'.tag = none ∨ k'.tag = k.tag) :
      Gone start id columns rows (k', c) := by
    refine ⟨fun id' h => ?_, ?_⟩
    · rw [hs] at h
      cases h
    · rcases ht with ht | ht
      · rw [ht]
        exact h.rowsOf.fewer (List.prefix_refl _)
      · rw [ht]
        exact h.rowsOf
  unfold fetch
  dsimp only
  cases hs : k.state with
  | closed | idle => exact h
  | exhausted =>
      dsimp only
      split
      · exact ⟨rfl, h⟩
      · exact h
  | pending id' =>
      obtain ⟨rfl, hgone⟩ := h.holds id' hs
      dsimp only
      rcases nextRow_gone hgone with hr | hr
      · rw [hr]
        exact ⟨rfl, exhausted _ rfl (.inl rfl)⟩
      · rw [hr]
        exact exhausted _ rfl (.inr rfl)

omit [Channel σ] in
theorem Gone.fewer {rows' : List Row} (h : Gone start id columns rows s) (ht : s.1.tag = none)
    (hp : rows' <+: rows) : Gone start id columns rows' s := by
  refine ⟨h.holds, ?_⟩
  rw [ht]
  exact h.rowsOf.fewer hp

/-- Rows that were read in front of an error are not handed out, and no others follow them. -/
theorem fetchOnto_live (read : List Row) (n : Nat) :
    Ensures (Live start id columns (rows ++ read.reverse))
      (fetchOnto read n : CursorAction (Traced σ) (List Row))
      (fun out => Handed start id columns (rows ++ out))
      (fun _ => Handed start id columns rows) := by
  induction n generalizing read with
  | zero => exact Ensures.pure fun _ h => .inl h
  | succ n ih =>
      have hfetch : Ensures (Live start id columns (rows ++ read.reverse))
          (fetch : CursorAction (Traced σ) (Option Row))
          (Fetched start id columns (rows ++ read.reverse))
          (fun _ => Handed start id columns rows) :=
        fetch_live.mono (fun _ h => h) (fun _ _ h => h)
          fun _ _ h => .inr (h.1.fewer h.2 (List.prefix_append _ _))
      refine hfetch.bind fun next => ?_
      cases next with
      | some row =>
          refine (ih (row :: read)).mono (fun s h => ?_) (fun _ _ h => h) fun _ _ h => h
          rw [List.reverse_cons, ← List.append_assoc]
          exact h
      | none => exact Ensures.pure fun _ h => .inr h

theorem fetchMany_hands (n : Nat) :
    Ensures (Handed start id columns rows) (fetchMany n : CursorAction (Traced σ) (List Row))
      (fun out => Handed start id columns (rows ++ out))
      (fun _ => Handed start id columns rows) := by
  constructor
  intro s hs
  rcases hs with h | h
  · rw [← List.append_nil rows] at h
    exact (fetchOnto_live [] n).run s h
  · unfold fetchMany
    cases n with
    | zero =>
        rw [← List.append_nil rows] at h
        exact Or.inr h
    | succ n =>
        refine Ensures.run (Ensures.bind (fetch_gone.mono (fun _ h => h) (fun _ _ h => h)
          fun _ _ h => Or.inr h) fun next => ?_) s h
        refine Ensures.of_each ?_
        intro s' hs
        obtain ⟨rfl, h⟩ := hs
        refine Ensures.of_eq h (Ensures.pure fun _ h => ?_)
        rw [← List.append_nil rows] at h
        exact Or.inr h

theorem fetch_hands :
    Ensures (Handed start id columns rows) (fetch : CursorAction (Traced σ) (Option Row))
      (fun next => Handed start id columns (rows ++ next.toList))
      (fun _ => Handed start id columns rows) := by
  constructor
  intro s hs
  rcases hs with h | h
  · refine (fetch_live.run s h).mono (fun next s' h => ?_) fun _ _ h => .inr h.1
    cases next with
    | some row => exact .inl h
    | none =>
        rw [Option.toList_none, List.append_nil]
        exact .inr h
  · refine (fetch_gone.run s h).mono ?_ fun _ _ h => .inr h
    intro _ s' hs
    obtain ⟨rfl, h⟩ := hs
    rw [Option.toList_none, List.append_nil]
    exact .inr h

omit [Channel σ] in
theorem handed_close {k : Cursor} {c : Connection (Traced σ)}
    (h : Handed start id columns rows (k, c)) : Handed start id columns rows (k.close, c) := by
  have hr : RowsOf start columns k.tag rows c.heard := h.rowsOf
  unfold Cursor.close
  split
  · exact h
  · exact .inr ⟨fun id' hs => (by cases hs), hr⟩

omit [Channel σ] in
theorem handed_aloof {k : Cursor} {c c' : Connection (Traced σ)}
    (h : Handed start id columns rows (k, c)) (ha : Aloof id c c') :
    Handed start id columns rows (k, c') := by
  have hr := h.rowsOf.longer ha.heard
  by_cases hs : c'.status = .streaming id columns
  · -- the result is open still, so nothing was read since
    obtain ⟨hstatus, hheard, hbuffer⟩ := ha.still columns hs
    rcases h with h | h
    · obtain ⟨w, ms, hw, hh, hms⟩ := h.read
      refine .inl ⟨h.holds, h.untagged, hs, w, ms, hw, ?_, hms⟩
      change c'.heard = start ++ w ++ c'.buffer
      rw [hheard, hbuffer]
      exact hh
    · refine .inr ⟨fun id' hk => ?_, hr⟩
      exact absurd hstatus ((h.holds id' hk).2 columns)
  · refine .inr ⟨fun id' hk => ?_, hr⟩
    rcases h with h | h
    · have hid : CursorState.pending id = .pending id' := h.holds.symm.trans hk
      cases hid
      refine ⟨rfl, fun columns' hs' => ?_⟩
      obtain ⟨hstatus, -, -⟩ := ha.still columns' hs'
      have hcolumns := h.status.symm.trans hstatus
      cases hcolumns
      exact hs hs'
    · obtain ⟨rfl, hgone⟩ := h.holds id' hk
      refine ⟨rfl, fun columns' hs' => ?_⟩
      exact hgone columns' (ha.still columns' hs').1

end

end Cursor

end SqlWire
