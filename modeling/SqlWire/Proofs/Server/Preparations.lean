import SqlWire.Proofs.Server.Brackets
import SqlWire.Proofs.Server.Talking

/-!
# Where statements are prepared

The record of an engine's calls tells at each call whether its session was in a transaction: one
that the engine began puts it inside, and whatever ends one puts it outside, also where the engine
refuses. So it can be seen which statements were prepared inside. The statements of a query are
run one after the other, and `Sql.exposed` are those that come where an earlier one may have left
the transaction.
-/

namespace SqlWire

structure Preparation where
  sql : String
  inside : Bool
  deriving DecidableEq, Repr

def EngineCall.preparation? (inside : Bool) : EngineCall → Option Preparation
  | .prepare sql => some ⟨sql, inside⟩
  | _ => none

namespace Engine

def insideAfter (e : Engine) (inside : Bool) : EngineCall → Bool
  | .execute sql =>
    if sql = "COMMIT" ∨ sql = "ROLLBACK" then false else inside || (e.execute sql).1.toBool
  | _ => inside

def insideAll (e : Engine) (inside : Bool) : List EngineCall → Bool
  | [] => inside
  | call :: calls => (e.make call).insideAll (e.insideAfter inside call) calls

def preparations (e : Engine) (inside : Bool) : List EngineCall → List Preparation
  | [] => []
  | call :: calls =>
    (call.preparation? inside).toList ++
      (e.make call).preparations (e.insideAfter inside call) calls

theorem insideAll_append (e : Engine) (inside : Bool) (calls more : List EngineCall) :
    e.insideAll inside (calls ++ more) =
      (e.makeAll calls).insideAll (e.insideAll inside calls) more := by
  induction calls generalizing e inside with
  | nil => rfl
  | cons call calls ih => exact ih (e.make call) (e.insideAfter inside call)

theorem preparations_append (e : Engine) (inside : Bool) (calls more : List EngineCall) :
    e.preparations inside (calls ++ more) =
      e.preparations inside calls ++
        (e.makeAll calls).preparations (e.insideAll inside calls) more := by
  induction calls generalizing e inside with
  | nil => rfl
  | cons call calls ih =>
      have h := ih (e.make call) (e.insideAfter inside call)
      simp only [List.cons_append, preparations, List.append_assoc, h]
      rfl

theorem insideAfter_ending {word : String} (hw : Session.IsEnding word) (e : Engine)
    (inside : Bool) : e.insideAfter inside (.execute word) = false :=
  if_pos hw

theorem insideAfter_other {call : EngineCall} (hc : ∀ sql, call ≠ .execute sql) (e : Engine)
    (inside : Bool) : e.insideAfter inside call = inside := by
  cases call with
  | execute sql => exact absurd rfl (hc sql)
  | _ => rfl

end Engine

namespace Session

/-- A statement that begins a transaction is none that ends one. -/
theorem IsBeginning.not_ending {sql : String} (h : IsBeginning sql) : ¬IsEnding sql := by
  obtain ⟨text, hk, rfl⟩ := h
  unfold Sql.engineBegin
  dsimp only
  split
  · rintro (rfl | rfl)
    · have hc : SqlKind.ofText "COMMIT" = .commit := by decide +kernel
      rw [hc] at hk
      cases hk
    · have hc : SqlKind.ofText "ROLLBACK" = .rollback := by decide +kernel
      rw [hc] at hk
      cases hk
  · split
    · rintro (h | h) <;> simp at h
    · rintro (h | h) <;> simp at h

theorem IsBeginning.insideAfter {sql : String} (h : IsBeginning sql) (e : Engine)
    (inside : Bool) :
    e.insideAfter inside (.execute sql) = (inside || (e.execute sql).1.toBool) :=
  if_neg h.not_ending

/-- Since the session was `base`, its engine was called like this. The calls tell whether the
session is in a transaction, and outside of one only what is free to be was prepared. -/
structure Replayed (free : String → Prop) (base : Session) (calls : List EngineCall)
    (s : Session) : Prop where
  engine : s.engine = base.engine.makeAll calls
  inside : base.engine.insideAll base.inTransaction calls = s.inTransaction
  outside : ∀ p ∈ base.engine.preparations base.inTransaction calls,
    p.inside = false → free p.sql

def Covered (free : String → Prop) (base s : Session) : Prop :=
  ∃ calls, Replayed free base calls s

section

variable {free : String → Prop} {base s s' : Session} {calls : List EngineCall}

/-- The calls are those that the engine recorded. -/
theorem Replayed.recorded (h : Replayed free base calls s) :
    s.engine.calls = calls.reverse ++ base.engine.calls := by
  rw [h.engine]
  exact Engine.makeAll_calls base.engine calls

/-- A session has prepared nothing since it is what it is. -/
theorem covered_refl (free : String → Prop) (s : Session) : Covered free s s :=
  ⟨[], rfl, rfl, by simp [Engine.preparations]⟩

theorem Covered.same (h : Covered free base s) (he : s'.engine = s.engine)
    (hi : s'.inTransaction = s.inTransaction) : Covered free base s' := by
  obtain ⟨calls, h⟩ := h
  exact ⟨calls, he.trans h.engine, h.inside.trans hi.symm, h.outside⟩

/-- One more call, which tells whether the session is in a transaction then. -/
theorem Covered.call (h : Covered free base s) (call : EngineCall)
    (he : s'.engine = s.engine.make call)
    (hi : s'.inTransaction = s.engine.insideAfter s.inTransaction call)
    (hf : ∀ sql, call = .prepare sql → free sql ∨ s.inTransaction = true) :
    Covered free base s' := by
  obtain ⟨calls, h⟩ := h
  refine ⟨calls ++ [call], ?_, ?_, fun p hp ho => ?_⟩
  · rw [he, h.engine, Engine.makeAll_append]
    rfl
  · rw [Engine.insideAll_append, h.inside, ← h.engine]
    exact hi.symm
  · rw [Engine.preparations_append, h.inside, ← h.engine] at hp
    rcases List.mem_append.1 hp with hp | hp
    · exact h.outside p hp ho
    · simp only [Engine.preparations, List.append_nil, Option.mem_toList] at hp
      cases call with
      | prepare sql =>
          cases hp
          exact (hf sql rfl).resolve_right (by simp [show s.inTransaction = false from ho])
      | _ => cases hp

/-- A statement that ends the transaction, whatever the engine answers. -/
theorem Covered.ends (h : Covered free base s) {word : String} (hw : IsEnding word)
    (he : s'.engine = (s.engine.execute word).2) (hi : s'.inTransaction = false) :
    Covered free base s' :=
  h.call (.execute word) he (hi.trans (Engine.insideAfter_ending hw _ _).symm) (by simp)

theorem Covered.left (h : Covered free base s) {word : String} (hw : IsEnding word) :
    Covered free base (s.left word) := by
  have first : Covered free base
      { s with engine := (s.engine.execute word).2, inTransaction := false, aborted := false } :=
    h.ends hw rfl rfl
  unfold Session.left Engine.leave
  dsimp only
  split
  · exact first.ends (.inr rfl) rfl rfl
  · exact first

theorem Covered.finish (h : Covered free base s) (error : Option ServerError) :
    Covered free base (s.finish error) := by
  unfold Session.finish
  dsimp only
  split
  · exact h.ends (.inr rfl) rfl rfl
  · exact h.same rfl rfl

/-- No act with a statement prepares outside a transaction what is not free. -/
theorem Covered.act (h : Covered free base s) (ha : Act free s s') : Covered free base s' := by
  cases ha with
  | wrote | said | aborted => exact h.same rfl rfl
  | asked call hc _ hp => exact h.call call rfl (Engine.insideAfter_other hc _ _).symm hp
  | @refused sql message hb hi hr =>
      refine h.call (.execute sql) rfl ?_ (by simp)
      rw [hb.insideAfter, hr]
      exact (Bool.or_false _).symm
  | @begun sql hb hi hr =>
      refine h.call (.execute sql) rfl ?_ (by simp)
      rw [hb.insideAfter, hr]
      exact (Bool.or_true _).symm
  | left hw => exact h.left hw

theorem covered_talks : Talks (Covered free base) where
  wrote _ h := h.same rfl rfl
  said _ h := h.same rfl rfl
  held _ _ _ h := h.same rfl rfl
  onward _ _ _ h := h.same rfl rfl
  aborted h := h.same rfl rfl

structure Shielded (free : String → Prop) (base s : Session) : Prop where
  covered : Covered free base s
  met : s.stage ≠ .startup

theorem shielded_talks : Talks (Shielded free base) where
  wrote left h := ⟨covered_talks.wrote left h.covered, h.met⟩
  said o h := ⟨covered_talks.said o h.covered, h.met⟩
  held _ _ _ h := ⟨covered_talks.held _ _ _ h.covered, h.met⟩
  onward stage hs he h := ⟨covered_talks.onward stage hs he h.covered, hs⟩
  aborted h := ⟨covered_talks.aborted h.covered, h.met⟩

theorem Shielded.finish (h : Shielded free base s) (error : Option ServerError) :
    Shielded free base (s.finish error) :=
  ⟨h.covered.finish error, by simp [Session.finish]⟩

theorem Shielded.acts (h : Shielded free base s) (ha : Acts free s s') : Shielded free base s' := by
  induction ha with
  | refl => exact h
  | tail _ hm ih =>
      refine ⟨ih.covered.act hm, ?_⟩
      cases hm <;> exact ih.met

end

end Session

/-! ## Queries -/

/-- The statements of a query that come where no transaction is known to be open: each one that
begins or ends a transaction is taken to succeed, and the others are prepared. -/
def Sql.exposed (inside : Bool) : List String → List String
  | [] => []
  | sql :: rest =>
    (if inside || (SqlKind.ofText sql).isTransactionControl then [] else [sql]) ++
      exposed ((SqlKind.ofText sql).leads inside) rest

/-- Inside a transaction no more is exposed than outside of one. -/
theorem Sql.exposed_mono {sql : String} (statements : List String) {inside : Bool}
    (h : sql ∈ exposed inside statements) : sql ∈ exposed false statements := by
  induction statements generalizing inside with
  | nil => exact h
  | cons text rest ih =>
      cases inside with
      | false => exact h
      | true =>
          have hrest : sql ∈ exposed ((SqlKind.ofText text).leads true) rest := by
            simpa [exposed] using h
          refine List.mem_append_right _ ?_
          cases hk : SqlKind.ofText text with
          | begin | commit | rollback =>
              rw [hk] at hrest
              exact hrest
          | _ =>
              rw [hk] at hrest
              exact ih hrest

namespace Session

section

variable {free : String → Prop} {base s : Session} {inside : Bool}

theorem runQuery_shielded (statements : List String) (hf : ∀ sql ∈ Sql.exposed inside statements,
    free sql) : Ensures (fun s => Shielded free base s ∧ s.inTransaction = inside)
      (runQuery statements) (fun _ => Shielded free base) (fun _ => Shielded free base) := by
  induction statements generalizing inside with
  | nil => exact Ensures.pure fun _ h => h.1
  | cons sql rest ih =>
      have hsql : (SqlKind.ofText sql).isTransactionControl = true ∨ free sql ∨ inside = true := by
        by_cases hc : (inside || (SqlKind.ofText sql).isTransactionControl) = true
        · exact (Bool.or_eq_true_iff.1 hc).elim (fun h => .inr (.inr h)) .inl
        · refine .inr (.inl (hf sql (List.mem_append_left _ ?_)))
          rw [if_neg hc]
          exact List.mem_singleton_self sql
      refine Ensures.of_each fun t ht => ?_
      have run := runStatement_acts (t := t) hsql [] .simple
      refine Ensures.bind (SqlWire.Ensures.mono run (fun s hs => ?_) (fun _ _ h => h)
        fun _ _ h => ht.1.acts h) fun result => ?_
      · subst hs
        exact ⟨.refl, ht.2⟩
      · cases result with
        | ok u =>
            refine (ih fun sql hs => hf sql (List.mem_append_right _ hs)).mono
              (fun _ h => ⟨ht.1.acts h.1, h.2⟩) (fun _ _ h => h) fun _ _ h => h
        | error report =>
            exact (shielded_talks.say _).mono (fun _ h => ht.1.acts h.1) (fun _ _ h => h)
              fun _ _ h => h

/-- A query prepares outside a transaction at most what is exposed in it. -/
theorem simpleQuery_shielded (hs : Shielded free base s) (sql : String)
    (hf : ∀ text ∈ Sql.exposed s.inTransaction (Sql.statements sql), free text) :
    Ensures (· = s) (simpleQuery sql) (fun _ => Shielded free base)
      (fun _ => Shielded free base) := by
  unfold simpleQuery
  dsimp only
  split
  · exact Ensures.of_eq hs (shielded_talks.say _)
  · exact Ensures.of_eq ⟨hs, rfl⟩ (runQuery_shielded _ hf)

/-- Nothing but a query or an execution makes a session prepare anything. -/
theorem Shielded.takeIn (hs : Shielded free base s) (read : Except WireError FrontendMessage)
    (query : ∀ sql, read = .ok (.query sql) →
      ∀ text ∈ Sql.exposed s.inTransaction (Sql.statements sql), free text)
    (execute : ∀ portal rows, read ≠ .ok (.execute portal rows)) :
    Shielded free base (s.takeIn read) :=
  shielded_talks.takeIn (Q := Shielded free base) (fun h => h) (fun error h => h.finish error) hs
    read (fun sql hr => simpleQuery_shielded hs sql (query sql hr))
    fun portal rows hr => absurd hr (execute portal rows)

end

end Session

end SqlWire
