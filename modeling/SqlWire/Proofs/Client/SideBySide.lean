import SqlWire.Proofs.Client.Coupling
import SqlWire.Proofs.Client.Progress

/-!
# Two callers side by side

Whatever two callers do alike with connections that are coupled, with cursors and scopes of the
same names, has the same outcomes.
-/

namespace SqlWire

variable {σ τ : Type} [Channel σ] [Channel τ] {α : Type} {allowed : Option Duration → Prop}
  {R : Connection σ → Connection τ → Prop}

open Connection (Coupling)

namespace Cursor

def Pair (R : Connection σ → Connection τ → Prop) (s : Cursor × Connection σ)
    (t : Cursor × Connection τ) : Prop :=
  t.1 = s.1 ∧ R s.2 t.2

section

variable (hR : Coupling allowed R)
include hR

theorem fetch_coupled :
    Coupled Never Never (Pair R) fetch fetch (fun _ => Pair R) (fun _ => Pair R) := by
  constructor
  intro s t h
  obtain ⟨k, c⟩ := s
  obtain ⟨k', c'⟩ := t
  obtain ⟨rfl, h⟩ := h
  unfold fetch
  dsimp only at h ⊢
  cases k'.state with
  | closed | idle => exact .error ⟨rfl, h⟩
  | exhausted =>
      dsimp only
      rw [(hR.face h).isUsable]
      cases c.isUsable with
      | true => exact .ok ⟨rfl, h⟩
      | false => exact .error ⟨rfl, h⟩
  | pending id =>
      dsimp only
      refine Matched.punctual ((hR.nextRow_coupled id).run c c' h) (fun pull d d' h => ?_)
        fun e d d' h => ?_
      · cases pull with
        | row row => exact .ok ⟨rfl, h⟩
        | finished tag => exact .ok ⟨rfl, h⟩
      · exact .error ⟨rfl, h⟩

theorem fetchOnto_coupled (read : List Row) (n : Nat) :
    Coupled Never Never (Pair R) (fetchOnto read n) (fetchOnto read n) (fun _ => Pair R)
      (fun _ => Pair R) := by
  induction n generalizing read with
  | zero => exact Coupled.pure fun _ _ h => h
  | succ n ih =>
      refine (fetch_coupled hR).bind fun row => ?_
      cases row with
      | some row => exact ih (row :: read)
      | none => exact Coupled.pure fun _ _ h => h

/-- Both fetch all that there is, though one may have more bytes at hand than the other. -/
theorem fetchAll_coupled :
    Coupled Never Never (Pair R) fetchAll fetchAll (fun _ => Pair R) (fun _ => Pair R) := by
  constructor
  intro s t h
  have hs : s.2.backlog < s.2.backlog + t.2.backlog + 1 := by omega
  have ht : t.2.backlog < s.2.backlog + t.2.backlog + 1 := by omega
  rw [fetchAll_eq hs, fetchAll_eq ht]
  exact (fetchOnto_coupled hR [] _).run s t h

theorem visitOnto_coupled (visited : List Visit) (n : Nat) {s : Cursor × Connection σ}
    {t : Cursor × Connection τ} (h : Pair R s t) :
    (visitOnto visited n t).1 = (visitOnto visited n s).1 ∧
      Pair R (visitOnto visited n s).2 (visitOnto visited n t).2 := by
  induction n generalizing visited s t with
  | zero => exact ⟨rfl, h⟩
  | succ n ih =>
      unfold visitOnto
      refine Matched.punctual ((fetch_coupled hR).run s t h) (fun row s' t' h => ?_)
        fun e s' t' h => ?_
      · cases row with
        | some row => exact ih (.row row :: visited) h
        | none => exact ⟨rfl, h⟩
      · exact ⟨rfl, h⟩

theorem execute_coupled (sql : String) (params : List Value) :
    Coupled Never Never (Pair R) (execute sql params) (execute sql params) (fun _ => Pair R)
      (fun _ => Pair R) := by
  constructor
  intro s t h
  obtain ⟨k, c⟩ := s
  obtain ⟨k', c'⟩ := t
  obtain ⟨rfl, h⟩ := h
  unfold execute
  dsimp only at h ⊢
  split
  · exact .error ⟨rfl, h⟩
  · refine Matched.punctual ((hR.execute_coupled sql params).run c c' h) (fun a d d' h => ?_)
      fun e d d' h => ?_
    · exact .ok ⟨rfl, h⟩
    · exact .error ⟨rfl, h⟩

theorem open_coupled :
    Coupled Never Never R (open? : Action σ Cursor) (open? : Action τ Cursor) (fun _ => R)
      (fun _ => R) :=
  hR.ensureUsable_coupled.bind fun _ => Coupled.pure fun _ _ h => h.1

end

end Cursor

namespace Desk

structure Pair (R : Connection σ → Connection τ → Prop) (d : Desk σ) (d' : Desk τ) : Prop where
  connection : R d.connection d'.connection
  scopes : d'.scopes = d.scopes
  cursors : d'.cursors = d.cursors

def Paired (R : Connection σ → Connection τ → Prop) (r : Outcome × Desk σ)
    (r' : Outcome × Desk τ) : Prop :=
  r'.1 = r.1 ∧ Pair R r.2 r'.2

section

variable {d : Desk σ} {d' : Desk τ}

omit [Channel σ] [Channel τ] in
theorem Pair.cursor? (h : Pair R d d') (name : String) : d'.cursor? name = d.cursor? name :=
  congrArg (List.lookup name) h.cursors

omit [Channel σ] [Channel τ] in
theorem Pair.putCursor (h : Pair R d d') (name : String) (k : Cursor) :
    Pair R (d.putCursor name k) (d'.putCursor name k) := by
  refine ⟨h.connection, h.scopes, ?_⟩
  unfold Desk.putCursor
  rw [h.cursors]

omit [Channel σ] [Channel τ] in
theorem Pair.reconnected (h : Pair R d d') {c : Connection σ} {c' : Connection τ} (hc : R c c') :
    Pair R { d with connection := c } { d' with connection := c' } :=
  ⟨hc, h.scopes, h.cursors⟩

omit [Channel σ] [Channel τ] in
theorem run_paired {x : Action σ α} {y : Action τ α}
    (hx : Coupled Never Never R x y (fun _ => R) (fun _ => R)) (h : Pair R d d')
    (outcome : α → Outcome) : Paired R (d.run x outcome) (d'.run y outcome) := by
  unfold run
  refine Matched.punctual (hx.run _ _ h.connection) (fun a c c' hc => ?_) fun e c c' hc => ?_
  · exact ⟨rfl, h.reconnected hc⟩
  · exact ⟨rfl, h.reconnected hc⟩

omit [Channel σ] [Channel τ] in
theorem runCursor_paired {x : CursorAction σ α} {y : CursorAction τ α}
    (hx : Coupled Never Never (Cursor.Pair R) x y (fun _ => Cursor.Pair R)
      (fun _ => Cursor.Pair R)) (h : Pair R d d') (name : String) (outcome : α → Outcome) :
    Paired R (d.runCursor name x outcome) (d'.runCursor name y outcome) := by
  unfold runCursor
  rw [h.cursor? name]
  cases d.cursor? name with
  | none => exact ⟨rfl, h⟩
  | some k =>
      have put {s : Cursor × Connection σ} {t : Cursor × Connection τ} (hc : Cursor.Pair R s t) :
          Pair R ({ d with connection := s.2 }.putCursor name s.1)
            ({ d' with connection := t.2 }.putCursor name t.1) := by
        rw [hc.1]
        exact (h.reconnected hc.2).putCursor name s.1
      have hr := hx.run (k, d.connection) (k, d'.connection) ⟨rfl, h.connection⟩
      dsimp only
      refine Matched.punctual hr (fun a s t hc => ?_) fun e s t hc => ?_
      · exact ⟨rfl, put hc⟩
      · exact ⟨rfl, put hc⟩

variable (hR : Coupling allowed R)
include hR

theorem openCursor_paired (h : Pair R d d') (name : String) :
    Paired R (d.openCursor name) (d'.openCursor name) := by
  have hr := (Cursor.open_coupled hR).run _ _ h.connection
  unfold openCursor
  refine Matched.punctual hr (fun k c c' hc => ?_) fun e c c' hc => ?_
  · exact ⟨rfl, (h.reconnected hc).putCursor name k⟩
  · exact ⟨rfl, h.reconnected hc⟩

theorem abandonScope_paired (h : Pair R d d') : Pair R d.abandonScope d'.abandonScope :=
  h.reconnected (hR.rollback_coupled.run _ _ h.connection).states

theorem beginScope_paired (h : Pair R d d') (name : String) (level : Isolation) :
    Paired R (d.beginScope name level) (d'.beginScope name level) := by
  have hr := (hR.begin_coupled level.sql).run _ _ h.connection
  unfold beginScope
  refine Matched.punctual hr (fun a c c' hc => ?_) fun e c c' hc => ?_
  · have begun := h.reconnected hc
    have taken : d'.scopes.contains name = d.scopes.contains name := by rw [h.scopes]
    dsimp only
    rw [taken]
    split
    · exact ⟨rfl, abandonScope_paired hR begun⟩
    · exact ⟨rfl, begun.connection, congrArg (insertName name) h.scopes, begun.cursors⟩
  · exact ⟨rfl, h.reconnected hc⟩

omit hR [Channel σ] [Channel τ] in
theorem Pair.without (h : Pair R d d') (name : String) :
    Pair R { d with scopes := d.scopes.filter (· != name) }
      { d' with scopes := d'.scopes.filter (· != name) } :=
  ⟨h.connection, by rw [h.scopes], h.cursors⟩

omit hR [Channel σ] [Channel τ] in
theorem endScope_paired {x : Action σ Unit} {y : Action τ Unit}
    (hx : Coupled Never Never R x y (fun _ => R) (fun _ => R)) (h : Pair R d d') (name : String) :
    Paired R (d.endScope name x) (d'.endScope name y) := by
  unfold endScope
  rw [h.scopes]
  split
  · have run := run_paired hx (h.without name) (fun _ => .done)
    rw [h.scopes] at run
    exact run
  · exact ⟨rfl, h⟩

/-- One thing that both callers do. -/
theorem perform_paired (h : Pair R d d') (operation : Operation)
    (ha : ∀ limit, operation = .setStatementTimeout limit → allowed limit)
    (hp : ∀ name, operation = .parameter name →
      d'.connection.parameters = d.connection.parameters) :
    Paired R (d.perform operation) (d'.perform operation) := by
  have face := hR.face h.connection
  cases operation with
  | execute sql params =>
      rw [perform, perform]
      exact run_paired (hR.execute_coupled sql params) h _
  | commit =>
      rw [perform, perform]
      exact run_paired hR.commit_coupled h _
  | rollback =>
      rw [perform, perform]
      exact run_paired hR.rollback_coupled h _
  | ping =>
      rw [perform, perform]
      exact run_paired hR.ping_coupled h _
  | close =>
      rw [perform, perform]
      exact ⟨rfl, h.reconnected (hR.close_coupled h.connection)⟩
  | autocommit =>
      rw [perform, perform]
      exact ⟨congrArg Outcome.flag face.autocommit, h⟩
  | setAutocommit on =>
      rw [perform, perform]
      exact run_paired (hR.setAutocommit_coupled on) h _
  | statementTimeout =>
      rw [perform, perform]
      exact ⟨congrArg Outcome.limit face.statementTimeout, h⟩
  | setStatementTimeout limit =>
      rw [perform, perform]
      exact ⟨rfl, h.reconnected (hR.limited limit (ha limit rfl) h.connection)⟩
  | parameter name =>
      rw [perform, perform]
      exact ⟨congrArg (fun known => Outcome.parameter (known.lookup name)) (hp name rfl), h⟩
  | backendKey =>
      rw [perform, perform]
      exact ⟨congrArg Outcome.key face.backendKey, h⟩
  | beginScope scope level =>
      rw [perform, perform]
      exact beginScope_paired hR h scope level
  | executeIn scope sql params =>
      rw [perform, perform, h.scopes]
      split
      · exact run_paired (hR.execute_coupled sql params) h _
      · exact ⟨rfl, h⟩
  | openCursorIn scope cursor =>
      rw [perform, perform, h.scopes]
      split
      · exact openCursor_paired hR h cursor
      · exact ⟨rfl, h⟩
  | commitScope scope =>
      rw [perform, perform]
      exact endScope_paired hR.commit_coupled h scope
  | rollbackScope scope =>
      rw [perform, perform]
      exact endScope_paired hR.rollback_coupled h scope
  | dropScope scope =>
      rw [perform, perform, h.scopes]
      split
      · have dropped := abandonScope_paired hR (h.without scope)
        rw [h.scopes] at dropped
        exact ⟨rfl, dropped⟩
      · exact ⟨rfl, h⟩
  | openCursor cursor =>
      rw [perform, perform]
      exact openCursor_paired hR h cursor
  | executeOn cursor sql params =>
      rw [perform, perform]
      exact runCursor_paired (Cursor.execute_coupled hR sql params) h cursor _
  | fetch cursor =>
      rw [perform, perform]
      exact runCursor_paired (Cursor.fetch_coupled hR) h cursor _
  | fetchMany cursor n =>
      rw [perform, perform]
      exact runCursor_paired (Cursor.fetchOnto_coupled hR [] n) h cursor _
  | fetchAll cursor =>
      rw [perform, perform]
      exact runCursor_paired (Cursor.fetchAll_coupled hR) h cursor _
  | visit cursor n =>
      rw [perform, perform]
      refine runCursor_paired ⟨fun s t hs => ?_⟩ h cursor _
      obtain ⟨he, hs⟩ := Cursor.visitOnto_coupled hR [] n hs
      unfold Cursor.visit
      dsimp only
      rw [he]
      exact .ok hs
  | inspect cursor =>
      rw [perform, perform, h.cursor? cursor]
      exact ⟨rfl, h⟩
  | closeCursor cursor =>
      rw [perform, perform, h.cursor? cursor]
      cases d.cursor? cursor with
      | none => exact ⟨rfl, h⟩
      | some k => exact ⟨rfl, h.putCursor cursor k.close⟩
  | dropCursor cursor =>
      rw [perform, perform, h.cursor? cursor]
      exact ⟨rfl, h.connection, h.scopes, by rw [h.cursors]⟩

theorem performAll_paired (operations : List Operation) (h : Pair R d d')
    (ha : ∀ limit, .setStatementTimeout limit ∈ operations → allowed limit)
    (hp : (∃ name, .parameter name ∈ operations) →
      ∀ {c : Connection σ} {c' : Connection τ}, R c c' → c'.parameters = c.parameters) :
    (d'.performAll operations).1 = (d.performAll operations).1 ∧
      Pair R (d.performAll operations).2 (d'.performAll operations).2 := by
  induction operations generalizing d d' with
  | nil => exact ⟨rfl, h⟩
  | cons operation operations ih =>
      obtain ⟨outcome, hnext⟩ := perform_paired hR h operation
        (fun limit hl => ha limit (by simp [hl]))
        fun name hn => hp ⟨name, by simp [hn]⟩ h.connection
      obtain ⟨outcomes, hlast⟩ := ih hnext (fun limit hl => ha limit (by simp [hl]))
        fun hn => hp (hn.imp fun _ hn => by simp [hn])
      refine ⟨?_, hlast⟩
      rw [performAll, performAll]
      dsimp only
      rw [outcome, outcomes]

theorem leave_paired (h : Pair R d d') : R d.leave d'.leave := by
  unfold leave
  rw [h.scopes]
  refine hR.close_coupled ?_
  generalize d.scopes = scopes
  induction scopes generalizing d d' with
  | nil => exact h.connection
  | cons _ scopes ih => exact ih (abandonScope_paired hR h)

end

end Desk

end SqlWire
