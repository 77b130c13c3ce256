import SqlWire.Proofs.Server.Moves

/-!
# The transactions of a session's engine

What a session has its engine execute falls into brackets: a statement that begins a transaction,
and, unless the engine refuses it, one that ends it. The record of the engine's calls is replayed
to see what each statement was answered.
-/

namespace SqlWire

/-- A statement that an engine executed: how the engine was before, what it answered, and whether
it was in a transaction afterwards. -/
structure Execution where
  before : Engine
  sql : String
  result : Except String Unit
  inside : Bool

namespace Engine

variable {e : Engine}

def makeAll (e : Engine) (calls : List EngineCall) : Engine :=
  calls.foldl make e

def execution? (e : Engine) : EngineCall → Option Execution
  | .execute sql => some ⟨e, sql, (e.execute sql).1, (e.execute sql).2.inTransaction⟩
  | _ => none

def executions (e : Engine) : List EngineCall → List Execution
  | [] => []
  | call :: calls => (e.execution? call).toList ++ (e.make call).executions calls

theorem answer_calls (e : Engine) : e.answer.2.calls = e.calls := by
  unfold answer
  split <;> rfl

theorem execute_calls (sql : String) (e : Engine) :
    (e.execute sql).2.calls = .execute sql :: e.calls := by
  have h := answer_calls (e.note (.execute sql))
  unfold execute
  split
  · next he => rw [he] at h; exact h
  · next he => rw [he] at h; exact h

theorem prepare_calls (sql : String) (e : Engine) :
    (e.prepare sql).2.calls = .prepare sql :: e.calls := by
  have h := answer_calls (e.note (.prepare sql))
  unfold prepare
  split
  · next he => rw [he] at h; exact h
  · next he => rw [he] at h; exact h
  · next he =>
      rw [he] at h
      split <;> exact h

/-- A call is on the record of the engine that it was made to. -/
theorem make_calls (e : Engine) (call : EngineCall) : (e.make call).calls = call :: e.calls := by
  cases call with
  | execute sql => exact execute_calls sql e
  | prepare sql => exact prepare_calls sql e
  | _ => rfl

theorem makeAll_calls (e : Engine) (calls : List EngineCall) :
    (e.makeAll calls).calls = calls.reverse ++ e.calls := by
  induction calls generalizing e with
  | nil => rfl
  | cons call calls ih =>
      have h := ih (e.make call)
      rw [make_calls] at h
      rw [List.reverse_cons, List.append_assoc]
      exact h

theorem makeAll_append (e : Engine) (calls more : List EngineCall) :
    e.makeAll (calls ++ more) = (e.makeAll calls).makeAll more :=
  List.foldl_append

theorem executions_append (e : Engine) (calls more : List EngineCall) :
    e.executions (calls ++ more) = e.executions calls ++ (e.makeAll calls).executions more := by
  induction calls generalizing e with
  | nil => rfl
  | cons call calls ih =>
      rw [List.cons_append, executions, executions, ih, List.append_assoc]
      rfl

theorem execution_none {call : EngineCall} (hc : ∀ sql, call ≠ .execute sql) (e : Engine) :
    e.execution? call = none := by
  cases call with
  | execute sql => exact absurd rfl (hc sql)
  | _ => rfl

structure Ran (e : Engine) (calls : List EngineCall) (done : List Execution) (e' : Engine) :
    Prop where
  engine : e' = e.makeAll calls
  done : e.executions calls = done

section

variable {e e' e'' : Engine} {calls more : List EngineCall} {done next : List Execution}

theorem Ran.refl (e : Engine) : e.Ran [] [] e := ⟨rfl, rfl⟩

theorem Ran.trans (h : e.Ran calls done e') (h' : e'.Ran more next e'') :
    e.Ran (calls ++ more) (done ++ next) e'' := by
  obtain ⟨rfl, rfl⟩ := h
  obtain ⟨rfl, rfl⟩ := h'
  exact ⟨(makeAll_append e calls more).symm, executions_append e calls more⟩

/-- The calls are what the engine recorded meanwhile. -/
theorem Ran.recorded (h : e.Ran calls done e') : e'.calls = calls.reverse ++ e.calls := by
  rw [h.engine]
  exact makeAll_calls e calls

theorem ran_execute (e : Engine) (sql : String) :
    e.Ran [.execute sql] [⟨e, sql, (e.execute sql).1, (e.execute sql).2.inTransaction⟩]
      (e.execute sql).2 :=
  ⟨rfl, rfl⟩

theorem ran_other {call : EngineCall} (hc : ∀ sql, call ≠ .execute sql) (e : Engine) :
    e.Ran [call] [] (e.make call) :=
  ⟨rfl, by simp [executions, execution_none hc]⟩

end

end Engine

section

variable {ending ending' : String → Engine → Prop}

/-- The statements of one transaction: the engine refused to begin it; or it was begun and then
ended; or the engine, asked to end it by `ending`, refused and was still inside, and was told to
roll back. -/
inductive Bracket (ending : String → Engine → Prop) : List Execution → Prop
  | refused {e : Engine} {sql message : String} {inside : Bool} (hb : Session.IsBeginning sql) :
      Bracket ending [⟨e, sql, .error message, inside⟩]
  | ended {e e' : Engine} {sql word : String} {inside inside' : Bool}
      {result : Except String Unit} (hb : Session.IsBeginning sql) (hw : Session.IsEnding word) :
      Bracket ending [⟨e, sql, .ok (), inside⟩, ⟨e', word, result, inside'⟩]
  | doubled {e e' e'' : Engine} {sql word message : String} {inside inside' : Bool}
      {result : Except String Unit} (hb : Session.IsBeginning sql) (hw : Session.IsEnding word)
      (he : ending word e') :
      Bracket ending [⟨e, sql, .ok (), inside⟩, ⟨e', word, .error message, true⟩,
        ⟨e'', "ROLLBACK", result, inside'⟩]

theorem Bracket.mono {unit : List Execution} (h : Bracket ending unit)
    (hm : ∀ word e, ending word e → ending' word e) : Bracket ending' unit := by
  cases h with
  | refused hb => exact .refused hb
  | ended hb hw => exact .ended hb hw
  | doubled hb hw he => exact .doubled hb hw (hm _ _ he)

inductive OpenBracket : List Execution → Prop
  | begun {e : Engine} {sql : String} {inside : Bool} (hb : Session.IsBeginning sql) :
      OpenBracket [⟨e, sql, .ok (), inside⟩]

theorem OpenBracket.ended {begun : List Execution} (h : OpenBracket begun) {word : String}
    (hw : Session.IsEnding word) (e : Engine) (result : Except String Unit) (inside : Bool) :
    Bracket ending (begun ++ [⟨e, word, result, inside⟩]) := by
  cases h with
  | begun hb => exact .ended hb hw

/-- An open transaction is closed when it is left. -/
theorem Engine.leave_closes {word : String} (hw : Session.IsEnding word) {e : Engine}
    (he : ending word e) {begun : List Execution} (h : OpenBracket begun) :
    ∃ calls last, e.Ran calls last (e.leave word).2 ∧ Bracket ending (begun ++ last) := by
  have first := e.ran_execute word
  by_cases hd : (e.execute word).1.toBool = false ∧ (e.execute word).2.inTransaction = true
  · -- the refusal is answered by a second call
    have second := (e.execute word).2.ran_execute "ROLLBACK"
    have hl : (e.leave word).2 = ((e.execute word).2.execute "ROLLBACK").2 := if_pos hd
    cases hr : (e.execute word).1 with
    | ok u => rw [hr] at hd; cases hd.1
    | error message =>
        rw [hr, hd.2] at first
        rw [hl]
        refine ⟨_, _, first.trans second, ?_⟩
        cases h with
        | begun hb => exact .doubled hb hw he
  · have hl : (e.leave word).2 = (e.execute word).2 := if_neg hd
    rw [hl]
    exact ⟨_, _, first, h.ended hw _ _ _⟩

end

namespace Session

/-- The session was to end its transaction with this word, and its engine was so before. -/
def Asked (s : Journaled) (word : String) (e : Engine) : Prop :=
  .ending word e ∈ s.journal

/-- Since the engine `e`, the session had its engine execute whole brackets, and an open one
exactly if it is in a transaction. -/
structure Bracketed (e : Engine) (s : Journaled) (calls : List EngineCall)
    (units : List (List Execution)) (last : List Execution) : Prop where
  ran : e.Ran calls (units.flatten ++ last) s.engine
  units : ∀ unit ∈ units, Bracket s.Asked unit
  last : if s.inTransaction then OpenBracket last else last = []

/-- The session's calls form brackets, and it aborts no transaction but one that it is in. -/
def KeepsBrackets (e : Engine) (s : Journaled) : Prop :=
  (∃ calls units last, Bracketed e s calls units last) ∧
    (s.aborted = true → s.inTransaction = true)

section

variable {e : Engine} {s s' : Journaled} {calls : List EngineCall} {units : List (List Execution)}
  {last : List Execution}

/-- What a session noted of its brackets stays in its journal. -/
theorem Asked.of_adds {errors : Bool} (h : Journal.Adds errors s.journal s'.journal)
    {word : String} (ha : s.Asked word e) : s'.Asked word e := by
  obtain ⟨new, hj, -⟩ := h
  rw [Journal.noteAll_list] at hj
  unfold Asked
  rw [hj]
  exact List.mem_append_right _ ha

theorem Bracketed.outside (h : Bracketed e s calls units last) (hi : s.inTransaction = false) :
    last = [] := by
  have := h.last
  rw [hi] at this
  exact this

theorem Bracketed.inside (h : Bracketed e s calls units last) (hi : s.inTransaction = true) :
    OpenBracket last := by
  have := h.last
  rw [hi] at this
  exact this

/-- The statements that end the transaction complete the open bracket. -/
theorem Bracketed.close (h : Bracketed e s calls units last)
    (ha : ∀ word e, s.Asked word e → s'.Asked word e) {more : List EngineCall}
    {ending : List Execution} (hr : s.engine.Ran more ending s'.engine)
    (hu : Bracket s'.Asked (last ++ ending)) (hi' : s'.inTransaction = false) :
    Bracketed e s' (calls ++ more) (units ++ [last ++ ending]) [] := by
  refine ⟨?_, ?_, by rw [hi']; rfl⟩
  · have := h.ran.trans hr
    simpa using this
  · intro u hu'
    rcases List.mem_append.1 hu' with hu' | hu'
    · exact (h.units u hu').mono ha
    · rw [List.mem_singleton.1 hu']
      exact hu

/-- Outside a transaction the statements that come next make a bracket of their own. -/
theorem Bracketed.add (h : Bracketed e s calls units last) (hi : s.inTransaction = false)
    (ha : ∀ word e, s.Asked word e → s'.Asked word e) {more : List EngineCall}
    {unit : List Execution} (hr : s.engine.Ran more unit s'.engine)
    (hu : Bracket s'.Asked unit) (hi' : s'.inTransaction = false) :
    Bracketed e s' (calls ++ more) (units ++ [unit]) [] := by
  have hl := h.outside hi
  subst hl
  exact h.close ha hr hu hi'

/-- Calls that are no executions belong to no bracket. -/
theorem Bracketed.idle (h : Bracketed e s calls units last)
    (ha : ∀ word e, s.Asked word e → s'.Asked word e) {more : List EngineCall}
    (hr : s.engine.Ran more [] s'.engine) (hi : s'.inTransaction = s.inTransaction) :
    Bracketed e s' (calls ++ more) units last := by
  refine ⟨?_, fun unit hu => (h.units unit hu).mono ha, by rw [hi]; exact h.last⟩
  have := h.ran.trans hr
  rwa [List.append_nil] at this

/-- No move breaks a bracket. -/
theorem KeepsBrackets.move (h : KeepsBrackets e s) {errors : Bool} (hm : Move errors s s') :
    KeepsBrackets e s' := by
  obtain ⟨⟨calls, units, last, hb⟩, ha⟩ := h
  have asked : ∀ word e, s.Asked word e → s'.Asked word e := fun _ _ => Asked.of_adds hm.adds
  cases hm with
  | spoke h =>
      have ran : s.engine.Ran [] [] s'.engine := by
        rw [h.engine]
        exact .refl _
      refine ⟨⟨_, units, last, hb.idle asked ran h.inTransaction⟩, ?_⟩
      rw [h.inTransaction, h.aborted]
      exact ha
  | asked call hc _ => exact ⟨⟨_, units, last, hb.idle asked (Engine.ran_other hc _) rfl⟩, ha⟩
  | @refused sql message hs hi hr =>
      have ran := s.engine.ran_execute sql
      rw [hr] at ran
      exact ⟨⟨_, _, [], hb.add hi asked ran (.refused hs) hi⟩, ha⟩
  | @begun sql hs hi hr =>
      have hl := hb.outside hi
      subst hl
      have ran := s.engine.ran_execute sql
      rw [hr] at ran
      have ran := hb.ran.trans ran
      rw [List.append_nil] at ran
      exact ⟨⟨_, units, _, ran, hb.units, OpenBracket.begun hs⟩, fun _ => rfl⟩
  | @left word hw hi _ =>
      have hi : s.inTransaction = true := hi.elim id ha
      have noted : (s.left word).Asked word s.engine := List.mem_cons_self
      obtain ⟨more, ending, ran, hu⟩ := Engine.leave_closes hw noted (hb.inside hi)
      exact ⟨⟨_, _, [], hb.close asked ran hu rfl⟩, fun h => by cases h⟩
  | aborted =>
      refine ⟨⟨calls, units, last, hb.ran, hb.units, hb.last⟩, fun h => ?_⟩
      exact (Bool.or_eq_true_iff.1 h).elim ha id

theorem KeepsBrackets.moves {errors : Bool} (h : Moves errors s s') (hs : KeepsBrackets e s) :
    KeepsBrackets e s' := by
  induction h with
  | refl => exact hs
  | tail _ hm ih => exact ih.move hm

@[simp] theorem finish_journal {η : Type} (error : Option ServerError) (s : Session η) :
    (s.finish error).journal = s.journal := by
  unfold Session.finish
  split <;> rfl

/-- At its end a session closes the bracket that is still open, with one call. -/
theorem Bracketed.finish (h : Bracketed e s calls units last) (error : Option ServerError) :
    ∃ calls units, Bracketed e (s.finish error) calls units [] := by
  have asked (word : String) (e : Engine) (ha : s.Asked word e) :
      (s.finish error).Asked word e := by
    unfold Asked
    rwa [finish_journal]
  unfold Session.finish at asked ⊢
  dsimp only at asked ⊢
  split
  · next hi =>
      rw [if_pos hi] at asked
      have ran := s.engine.ran_execute "ROLLBACK"
      exact ⟨_, _, h.close asked ran ((h.inside hi).ended (.inr rfl) _ _ _) rfl⟩
  · next hi =>
      have hi : s.inTransaction = false := by simpa using hi
      have hl := h.outside hi
      subst hl
      exact ⟨calls, units, h.ran, h.units, by rw [if_neg]; simp [hi]⟩

theorem finish_outside {η : Type} (s : Session η) (error : Option ServerError) :
    (s.finish error).inTransaction = false := by
  unfold Session.finish
  dsimp only
  split
  · rfl
  · next hi => simpa using hi

theorem KeepsBrackets.course (hs : KeepsBrackets e s) (h : Course s s') :
    ∃ calls units last, Bracketed e s' calls units last := by
  cases h with
  | on h => exact (hs.moves h).1
  | ended h error =>
      obtain ⟨⟨calls, units, last, hb⟩, -⟩ := hs.moves h
      obtain ⟨calls, units, hb⟩ := hb.finish error
      exact ⟨calls, units, [], hb⟩

/-- A session that had not ended is in no transaction when its client is gone. -/
theorem Course.hangUp_outside (h : Course s s') (hs : ∀ error, s.stage ≠ .ended error) :
    s'.hangUp.inTransaction = false := by
  cases h with
  | on h =>
      unfold Session.hangUp
      split
      · next error he => exact absurd (h.stage he) (hs error)
      · exact finish_outside _ _
  | ended h error => exact finish_outside _ error

end

section

variable (config : ServerConfig) (processId secretKey : Int32) (engine : Engine)
  (writes : Option Nat)

def openedOn : Session :=
  { opened config processId secretKey engine with writesLeft := writes }

theorem openedOn_keepsBrackets :
    KeepsBrackets (openedOn config processId secretKey engine writes).engine
      (openedOn config processId secretKey engine writes).journaled :=
  ⟨⟨[], [], [], .refl _, by simp, rfl⟩, fun h => by cases h⟩

/-- Whatever bytes a session takes in, wherever a write fails and whatever its engine answers,
the statements that the engine executes fall into brackets. While the session goes on, one more
is open exactly if it is in a transaction; when it is over, none is. The session is one that keeps
a journal; one that keeps none comes to the same. -/
theorem session_brackets_transactions (chunks : List Bytes) :
    let start := openedOn config processId secretKey engine writes
    let s := start.journaled
    (∃ calls units last, Bracketed s.engine (s.serveChunks [] chunks).1 calls units last ∧
      (s.serveChunks [] chunks).1.engine.calls = calls.reverse ++ s.engine.calls) ∧
    (∃ calls units, Bracketed s.engine (s.run chunks) calls units [] ∧
      (s.run chunks).engine.calls = calls.reverse ++ s.engine.calls ∧
      (s.run chunks).inTransaction = false) ∧
    (s.run chunks).forget = start.run chunks := by
  intro start s
  have keeps : KeepsBrackets s.engine s :=
    openedOn_keepsBrackets config processId secretKey engine writes
  have course : Course s (s.serveChunks [] chunks).1 := (Course.on .refl).serveChunks [] chunks
  refine ⟨?_, ?_, forget_run s chunks⟩
  · obtain ⟨calls, units, last, hb⟩ := keeps.course course
    exact ⟨calls, units, last, hb, hb.ran.recorded⟩
  · obtain ⟨calls, units, last, hb⟩ := keeps.course course.hangUp
    have hi := course.hangUp_outside fun error h => by cases h
    have hl := hb.outside hi
    subst hl
    exact ⟨calls, units, hb, hb.ran.recorded, hi⟩

end

end Session

end SqlWire
