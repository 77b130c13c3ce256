import SqlWire.Proofs.Server.Failures
import SqlWire.Proofs.Server.Outcomes
import SqlWire.Proofs.Server.Synchrony

/-!
# What an engine can do to its session

As long as what has to be said of its answers can be put on the wire, an engine cannot end the
session: its errors are reported, and the session goes on until the client leaves. What has no form
as bytes ends the session, and the client is told nothing.
-/

namespace SqlWire

namespace Session

section

variable {s : Session}

/-! ## What a message comes to -/

theorem runStatement_perseveres {sql : String} (ht : TagFits sql) (params : List Value)
    (describing : Describing) :
    Ensures Persevering (runStatement sql params describing).run
      (fun r u => Persevering u ∧
        ∀ report, r = .error report → (BackendMessage.errorResponse report).Sendable)
      (fun _ _ => False) := by
  refine Ensures.of_each fun s hs => ?_
  refine Ensures.mono (runStatement_fares hs ht params describing) (fun _ h => h) (fun r u h => ?_)
    fun _ _ h => h
  cases r with
  | ok a => exact ⟨h.2, fun _ he => nomatch he⟩
  | error report =>
      refine ⟨h.2, ?_⟩
      rintro _ ⟨rfl⟩
      exact hs.verdict_sendable h.1

theorem runQuery_perseveres {statements : List String} (ht : ∀ sql ∈ statements, TagFits sql) :
    Ensures Persevering (runQuery statements) (fun _ => Persevering) (fun _ _ => False) := by
  induction statements with
  | nil => exact Ensures.pure fun _ h => h
  | cons sql statements ih =>
      obtain ⟨hsql, hrest⟩ := List.forall_mem_cons.1 ht
      refine (runStatement_perseveres hsql [] .simple).bind fun r => ?_
      cases r with
      | ok a => exact (ih hrest).mono (fun _ h => h.1) (fun _ _ h => h) fun _ _ h => h
      | error report =>
          exact ⟨fun u hu => (send_perseveres (hu.2 report rfl)).run u hu.1⟩

theorem simpleQuery_perseveres {sql : String} (h : (FrontendMessage.query sql).Fits) :
    Ensures Persevering (simpleQuery sql) (fun _ => Persevering) (fun _ _ => False) := by
  unfold simpleQuery
  dsimp only
  split
  · exact send_perseveres ⟨_, rfl⟩
  · exact runQuery_perseveres h

theorem ready_perseveres :
    Ensures Persevering ready (fun _ => Persevering) (fun _ _ => False) := by
  constructor
  intro s hs
  rw [ready_eq hs.writes]
  exact hs.said _

theorem flush_perseveres :
    Ensures Persevering flush (fun _ => Persevering) (fun _ _ => False) := by
  constructor
  intro s hs
  rw [show flush s = _ from useWrite_eq hs.writes]
  exact hs

theorem extendedError_perseveres {report : Diagnostic}
    (hr : (BackendMessage.errorResponse report).Sendable) :
    Ensures Persevering (extendedError report) (fun _ => Persevering) (fun _ _ => False) := by
  refine Ensures.bind (Q := fun _ => Persevering) (Ensures.modify fun s h => ?_) fun _ =>
    send_perseveres hr
  exact h.abort.within s.inTransaction _ true

theorem bind_perseveres {portal statement : String} {params : List (Option Bytes)}
    (h : (FrontendMessage.bind portal statement params).Fits) :
    Ensures Persevering (bind params) (fun _ => Persevering) (fun _ _ => False) := by
  refine Ensures.get_bind fun s hs => Ensures.of_eq (P := Persevering) hs ?_
  have held := hs.prepared
  cases hp : s.prepared with
  | none => exact extendedError_perseveres ⟨_, rfl⟩
  | some p =>
      dsimp only
      cases hb : bindParams p.paramTypes params with
      | error e => exact extendedError_perseveres (h _ _ hb)
      | ok values =>
          refine Ensures.bind (Q := fun _ => Persevering) (Ensures.modify fun s h => ?_) fun _ =>
            send_perseveres ⟨_, rfl⟩
          refine ⟨h.stage, h.writes, h.engine, h.prepared, ?_⟩
          rintro _ ⟨rfl⟩
          exact held p hp

theorem describe_perseveres (target : DescribeTarget) :
    Ensures Persevering (describe target) (fun _ => Persevering) (fun _ _ => False) := by
  refine Ensures.get_bind fun s hs => Ensures.of_eq (P := Persevering) hs ?_
  have held := hs.portal
  cases target with
  | statement => exact extendedError_perseveres ⟨_, rfl⟩
  | portal =>
      cases hp : s.portal with
      | none => exact extendedError_perseveres ⟨_, rfl⟩
      | some p =>
          refine Ensures.modify fun s h => ⟨h.stage, h.writes, h.engine, h.prepared, ?_⟩
          rintro _ ⟨rfl⟩
          exact held p hp

/-- The session without its bound statement. -/
theorem Persevering.unbound (h : Persevering s) : Persevering { s with portal := none } :=
  ⟨h.stage, h.writes, h.engine, h.prepared, nofun⟩

theorem executePortal_perseveres :
    Ensures Persevering executePortal (fun _ => Persevering) (fun _ _ => False) := by
  refine Ensures.get_bind fun s hs => Ensures.of_eq (P := Persevering) hs ?_
  have held := hs.portal
  cases hp : s.portal with
  | none => exact extendedError_perseveres ⟨_, rfl⟩
  | some p =>
      refine Ensures.bind (Q := fun _ => Persevering) (Ensures.modify fun s h => h.unbound)
        fun _ => ?_
      split
      · exact send_perseveres ⟨_, rfl⟩
      · split
        · exact extendedError_perseveres ⟨_, rfl⟩
        · refine (runStatement_perseveres (held p hp) _ _).bind fun r => ?_
          cases r with
          | ok a => exact Ensures.pure fun _ h => h.1
          | error report =>
              exact ⟨fun u hu => (extendedError_perseveres (hu.2 report rfl)).run u hu.1⟩

/-- A message is taken in to its end, and the client's leave is the only one that ends the
session. -/
theorem handle_perseveres (h : Persevering s) {m : FrontendMessage} (hm : m.Fits) :
    Ensures (· = s) (handle m)
      (fun go u => go = true ∧ m ≠ .terminate ∧ Persevering u ∨
        go = false ∧ m = .terminate ∧ u = s) (fun _ _ => False) := by
  have goes {work : Serving Unit} (hm : m ≠ .terminate)
      (hw : Ensures Persevering work (fun _ => Persevering) (fun _ _ => False)) :
      Ensures Persevering (work >>= fun _ => pure true)
        (fun go u => go = true ∧ m ≠ .terminate ∧ Persevering u ∨
          go = false ∧ m = .terminate ∧ u = s) (fun _ _ => False) :=
    hw.bind fun _ => Ensures.pure fun _ h => .inl ⟨rfl, hm, h⟩
  unfold handle
  refine Ensures.get_bind fun t ht => ?_
  subst ht
  split
  · next hd => exact Ensures.pure fun u hu => .inl ⟨rfl, hd.2.2, hu ▸ h⟩
  · dsimp only
    cases m with
    | query sql =>
        exact Ensures.of_eq h ((simpleQuery_perseveres hm).bind fun _ =>
          goes (by simp) ready_perseveres)
    | parse name sql types =>
        refine Ensures.modify_bind (Ensures.of_eq ?_ (goes (by simp) (send_perseveres ⟨_, rfl⟩)))
        refine ⟨h.stage, h.writes, h.engine, ?_, h.portal⟩
        rintro _ ⟨rfl⟩
        exact hm
    | bind portal statement params =>
        exact Ensures.of_eq h (goes (by simp) (bind_perseveres hm))
    | describe target name => exact Ensures.of_eq h (goes (by simp) (describe_perseveres target))
    | execute portal rows => exact Ensures.of_eq h (goes (by simp) executePortal_perseveres)
    | sync =>
        refine Ensures.modify_bind (Ensures.of_eq ?_ (goes (by simp) ready_perseveres))
        exact (h.within t.inTransaction t.aborted false).unbound
    | flush => exact Ensures.of_eq h (goes (by simp) flush_perseveres)
    | terminate => exact Ensures.pure fun u hu => .inr ⟨rfl, rfl, hu⟩
    | sslRequest | startup | password =>
        exact Ensures.of_eq h ((send_perseveres hm).bind fun _ =>
          goes (by simp) flush_perseveres)

theorem takeIn_perseveres (h : Persevering s) {m : FrontendMessage} (hm : m.Fits) :
    m ≠ .terminate ∧ Persevering (s.takeIn (.ok m)) ∨
      m = .terminate ∧ (s.takeIn (.ok m)).stage = .ended none := by
  have taken : s.takeIn (.ok m) = s.after (handle m) := by simp only [takeIn, h.stage]
  rw [taken]
  refine after_either (B := fun u => m ≠ .terminate ∧ Persevering u ∨
    m = .terminate ∧ u.stage = .ended none)
    ((handle_perseveres h hm).mono (fun _ h => h) ?_ fun _ _ h => h.elim)
  rintro go u (⟨rfl, hm, hu⟩ | ⟨rfl, hm, -⟩)
  · exact .inl ⟨hm, hu⟩
  · exact .inr ⟨hm, rfl⟩

theorem takeAll_perseveres (h : Persevering s) {ms : List FrontendMessage}
    (hm : ∀ m ∈ ms, m.Fits) :
    (s.takeAll ms).stage = if .terminate ∈ ms then .ended none else .serving := by
  induction ms generalizing s with
  | nil => exact h.stage
  | cons m ms ih =>
      obtain ⟨hfirst, hrest⟩ := List.forall_mem_cons.1 hm
      change ((s.takeIn (.ok m)).takeAll ms).stage = _
      rcases takeIn_perseveres h hfirst with ⟨hne, hp⟩ | ⟨rfl, he⟩
      · rw [ih hp hrest]
        simp [Ne.symm hne]
      · rw [takeAll_ended he, he]
        simp

/-- Each message is taken in by a session that goes on, up to the client's leave. -/
theorem intakes_perseveres (h : Persevering s ∨ s.Over) {ms : List FrontendMessage}
    (hm : ∀ m ∈ ms, m.Fits) :
    ∀ x ∈ s.intakes ms, x.before.stage = .serving →
      Persevering x.before ∧ x.message.Fits ∧ x.after = x.before.takeIn (.ok x.message) := by
  induction ms generalizing s with
  | nil => exact fun _ hx => nomatch hx
  | cons m ms ih =>
      obtain ⟨hfirst, hrest⟩ := List.forall_mem_cons.1 hm
      have next : Persevering (s.takeIn (.ok m)) ∨ (s.takeIn (.ok m)).Over := by
        rcases h with h | ⟨error, he⟩
        · exact (takeIn_perseveres h hfirst).imp And.right fun he => ⟨none, he.2⟩
        · rw [takeIn_ended he]
          exact .inr ⟨error, he⟩
      refine List.forall_mem_cons.2 ⟨fun hs => ⟨h.resolve_right ?_, hfirst, rfl⟩, ih next hrest⟩
      rintro ⟨error, he⟩
      cases he.symm.trans hs

/-! ## How an error of the engine is reported -/

/-- The session runs these statements without a failure. -/
inductive Succeeds : Session → List String → Session → Prop
  | nil (s : Session) : Succeeds s [] s
  | cons {s t u : Session} {sql : String} {rest : List String}
      (h : runStatement sql [] .simple s = (.ok (.ok ()), t)) (hr : Succeeds t rest u) :
      Succeeds s (sql :: rest) u

inductive Meets (s : Session) (message : String) : FrontendMessage → Prop
  | query {sql statement : String} {before behind : List String} {t : Session}
      (hs : Sql.statements sql = before ++ statement :: behind) (hb : Succeeds s before t)
      (he : t.engineError? statement = some message) : Meets s message (.query sql)
  | execute {name : String} {rows : Int32} {p : Portal} (hp : s.portal = some p)
      (hn : Sql.isEmptyQuery p.sql = false) (ho : (Sql.statements p.sql).length ≤ 1)
      (he : s.engineError? (Sql.numberedPlaceholders p.sql) = some message) :
      Meets s message (.execute name rows)

end

end Session

/-- The session ends its answer to the message with the report, and goes on: it says that it is
ready behind a query, and else drops what follows until the client asks for synchronisation. -/
def Intake.Tells (x : Intake) (report : Diagnostic) : Prop :=
  x.after.stage = .serving ∧ ∃ parts, (∀ o ∈ parts, o.isPart = true) ∧
    match x.message with
    | .query _ => x.sent = parts ++ [.message (.errorResponse report),
        .message (.readyForQuery x.after.status)]
    | _ => x.sent = parts ++ [.message (.errorResponse report)] ∧ x.after.skipping = true

namespace Session

section

variable {s t u : Session} {message : String}

theorem runStatement_fails (h : Persevering s) {sql : String} (ht : TagFits sql)
    (he : s.engineError? sql = some message) (params : List Value) (describing : Describing) :
    ∃ u, runStatement sql params describing s = (.ok (.error (Engine.report message)), u) ∧
      Persevering u := by
  have fares : Fares (· = s) _ (some (Engine.report message)) _ :=
    verdict_of_engineError he ▸ runStatement_fares h ht params describing
  have ends := fares.run s rfl
  unfold ExceptT.run at ends
  rcases hr : runStatement sql params describing s with ⟨e | report | a, u⟩
  · rw [hr] at ends
    exact ends.elim
  · rw [hr] at ends
    obtain ⟨rfl⟩ := ends.1
    exact ⟨u, rfl, ends.2⟩
  · rw [hr] at ends
    cases ends.1

/-- What statements that succeed say belongs to the inside of an answer. -/
theorem Succeeds.perseveres {statements : List String} (hr : Succeeds s statements t)
    (h : Persevering s) (ht : ∀ sql ∈ statements, TagFits sql)
    (hs : Said Outgoing.isPart false u s) :
    Persevering t ∧ Said Outgoing.isPart false u t := by
  induction hr with
  | nil => exact ⟨h, hs⟩
  | @cons s t v sql rest hrun hrest ih =>
      obtain ⟨hsql, hr⟩ := List.forall_mem_cons.1 ht
      have goes := (runStatement_perseveres hsql [] .simple).ok h hrun
      have said := (runStatement_said sql [] .simple).ok hs hrun
      exact ih goes.1 hr said

/-- Statements that succeed are followed by the others. -/
theorem Succeeds.runQuery {before behind : List String} (h : Succeeds s before t) :
    runQuery (before ++ behind) s = Session.runQuery behind t := by
  induction h with
  | nil => rfl
  | cons hrun _ ih => exact (runQuery_done hrun _).trans ih

theorem extendedError_eq {report : Diagnostic} (hw : s.writesLeft = none) {bytes : Bytes}
    (hb : (BackendMessage.errorResponse report).encode = .ok bytes) :
    extendedError report s = (.ok (), { s.abort with
      skipping := true, sent := .message (.errorResponse report) :: s.sent }) := by
  have sent := send_eq (s := { s.abort with skipping := true }) (.errorResponse report) hw
  rw [hb] at sent
  exact sent

theorem after_query (hw : s.writesLeft = none) (sql : String) :
    s.after (followUp (.query sql)) =
      { s with sent := .message (.readyForQuery s.status) :: s.sent } := by
  have said : followUp (.query sql) s =
      (.ok true, { s with sent := .message (.readyForQuery s.status) :: s.sent }) := by
    change (ready >>= fun _ => pure true : Serving Bool) s = _
    rw [bind_apply, ready_eq hw]
    rfl
  unfold after
  rw [said]

theorem takeIn_sync (h : Persevering s) :
    s.takeIn (.ok .sync) = { s with
      skipping := false
      portal := none
      sent := .message (.readyForQuery s.status) :: s.sent } := by
  have said : handle .sync s = (.ok true, { s with
      skipping := false
      portal := none
      sent := .message (.readyForQuery s.status) :: s.sent }) := by
    unfold handle
    rw [bind_apply, get_apply]
    dsimp only
    rw [if_neg (by simp)]
    change (ready >>= fun _ => pure true : Serving Bool)
      { s with skipping := false, portal := none } = _
    rw [bind_apply, ready_eq (s := { s with skipping := false, portal := none }) h.writes]
    rfl
  have taken : s.takeIn (.ok .sync) = s.after (handle .sync) := by simp only [takeIn, h.stage]
  rw [taken]
  unfold after
  rw [said]

/-- An error of the engine is reported, behind what was said of the statements before. -/
theorem query_tells (h : Persevering s) (hk : s.skipping = false) {sql : String}
    (hm : (FrontendMessage.query sql).Fits) (he : Meets s message (.query sql)) :
    Intake.Tells ⟨s, .query sql, s.takeIn (.ok (.query sql))⟩ (Engine.report message) := by
  cases he with
  | @query _ statement before behind t hs hb he =>
      have fits : ∀ text ∈ before ++ statement :: behind, TagFits text := hs ▸ hm
      have said : Said Outgoing.isPart false s s := .refl hk
      obtain ⟨ht, said⟩ := hb.perseveres h
        (fun text htext => fits text (List.mem_append_left _ htext)) said
      obtain ⟨u, hrun, hu⟩ := runStatement_fails ht (fits statement (by simp)) he [] .simple
      obtain ⟨out, ho, hp⟩ := ((runStatement_said statement [] .simple).ok said hrun).sent
      obtain ⟨bytes, hbytes⟩ := ht.verdict_sendable (verdict_of_engineError he)
      have work : simpleQuery sql s = (.ok (), { u with
          sent := .message (.errorResponse (Engine.report message)) :: u.sent }) := by
        unfold simpleQuery
        rw [hs]
        have some : (before ++ statement :: behind).isEmpty = false := by simp
        simp only [some, Bool.false_eq_true, if_false]
        rw [hb.runQuery, runQuery_refused hrun, send_eq _ hu.writes, hbytes]
      rw [takeIn_statement_ok (m := .query sql) rfl h.stage hk work,
        after_query (hu.said _).writes]
      refine ⟨hu.stage, out.reverse, by simpa using hp, Intake.sent_eq ?_⟩
      simp only [ho, List.reverse_append, List.reverse_reverse]
      rfl

theorem engineError_unbound (sql : String) :
    Session.engineError? { s with portal := none } sql = s.engineError? sql := by
  simp only [engineError?]

theorem execute_tells (h : Persevering s) (hk : s.skipping = false) {name : String} {rows : Int32}
    (he : Meets s message (.execute name rows)) :
    Intake.Tells ⟨s, .execute name rows, s.takeIn (.ok (.execute name rows))⟩
      (Engine.report message) := by
  cases he with
  | @execute _ _ p hp hn ho he =>
      have said : Said Outgoing.isPart false s { s with portal := none } :=
        (Said.refl hk).of_eq rfl rfl rfl rfl
      have he : Session.engineError? { s with portal := none } (Sql.numberedPlaceholders p.sql) =
          some message := (engineError_unbound _).trans he
      obtain ⟨u, hrun, hu⟩ := runStatement_fails h.unbound (h.portal p hp) he p.params
        (if p.described then .portal else .silent)
      obtain ⟨out, hout, hparts⟩ := ((runStatement_said _ _ _).ok said hrun).sent
      obtain ⟨bytes, hbytes⟩ := h.unbound.verdict_sendable (verdict_of_engineError he)
      have work : executePortal s = (.ok (), { u.abort with
          skipping := true,
          sent := .message (.errorResponse (Engine.report message)) :: u.sent }) := by
        have told := extendedError_eq hu.writes hbytes
        unfold executePortal
        rw [bind_apply, get_apply]
        dsimp only
        rw [hp]
        change (if Sql.isEmptyQuery p.sql = true then _ else _ : Serving Unit)
          { s with portal := none } = _
        rw [hn, if_neg Bool.false_ne_true, if_neg (Nat.not_lt.2 ho), bind_apply, ExceptT.run, hrun]
        exact told
      rw [takeIn_statement_ok (m := .execute name rows) rfl h.stage hk work]
      refine ⟨hu.stage, out.reverse, by simpa using hparts, Intake.sent_eq ?_, rfl⟩
      simp only [hout, List.reverse_append, List.reverse_reverse]
      rfl

/-- A session survives its engine. If what has to be said of the answers that the engine still has,
and what has to be repeated of the client's messages, can be put on the wire, then the session goes
on until the client leaves, and answers every message that it takes in. An error with which the
engine answers a statement is reported as the last of the answer; behind a query and wherever the
client asks for synchronisation, the session says that it is ready. -/
theorem session_survives_its_engine (s : Session) (persevering : s.Persevering)
    (ms : List FrontendMessage) (fits : ∀ m ∈ ms, m.Fits) :
    (s.takeAll ms).stage = (if .terminate ∈ ms then .ended none else .serving) ∧
      ∀ x ∈ s.intakes ms, x.before.stage = .serving →
        Responds x.before x.message x.after ∧
        (x.message = .sync → x.sent = [.message (.readyForQuery x.after.status)]) ∧
        (x.before.skipping = false → ∀ message, Meets x.before message x.message →
          x.Tells (Engine.report message)) := by
  refine ⟨takeAll_perseveres persevering fits, fun x hx hs => ?_⟩
  obtain ⟨hp, hm, ha⟩ := intakes_perseveres (.inl persevering) fits x hx hs
  obtain ⟨before, message, after⟩ := x
  dsimp only at hp hm ha ⊢
  subst ha
  have intact : Intact (before.takeIn (.ok message)) := by
    intro error he
    rcases takeIn_perseveres hp hm with ⟨-, hp⟩ | ⟨-, hl⟩
    · cases hp.stage.symm.trans he
    · cases hl.symm.trans he
  refine ⟨takeIn_responds hs message intact, ?_, fun hk text he => ?_⟩
  · rintro rfl
    refine Intake.sent_eq ?_
    rw [takeIn_sync hp]
    rfl
  · cases message with
    | query sql => exact query_tells hp hk hm he
    | execute name rows => exact execute_tells hp hk he
    | _ => cases he

end

def askingTwice : List FrontendMessage :=
  [.query "SELECT x FROM t", .parse "" "SELECT x FROM t" [], .bind "" "" [], .execute "" 0, .sync,
    .terminate]

def admittedTo (answers : List EngineAnswer) : Session :=
  (openedOn { databasePath := "" } 1 2 { answers } none).takeIn
    (.ok (.startup Protocol.version3 [("user", "u")]))

theorem session_survives_its_engine_failing :
    let s := admittedTo [.error "no such table: t" none]
    (s.Persevering ∧ ∀ m ∈ askingTwice, m.Fits) ∧
      (s.takeAll askingTwice).stage =
        (if .terminate ∈ askingTwice then .ended none else .serving) ∧
      ∀ x ∈ s.intakes askingTwice, x.before.stage = .serving →
        Responds x.before x.message x.after ∧
        (x.message = .sync → x.sent = [.message (.readyForQuery x.after.status)]) ∧
        (x.before.skipping = false → ∀ message, Meets x.before message x.message →
          x.Tells (Engine.report message)) := by
  intro s
  have persevering : s.Persevering := by
    refine ⟨by decide +kernel, by decide +kernel, ?_, ?_, ?_⟩
    · have answers : s.engine.answers = [.error "no such table: t" none] := by decide +kernel
      rw [answers]
      refine List.forall_mem_singleton.2 ⟨?_, nofun, nofun, by decide⟩
      rintro _ ⟨rfl⟩
      decide +kernel
    · have unprepared : s.prepared = none := by decide +kernel
      simp [unprepared]
    · have unbound : s.portal = none := by decide +kernel
      simp [unbound]
  have fits : ∀ m ∈ askingTwice, m.Fits := by
    have query : TagFits "SELECT x FROM t" := tagFits_of_kind (by decide +kernel)
    have statements : Sql.statements "SELECT x FROM t" = ["SELECT x FROM t"] := by decide +kernel
    have numbered : Sql.numberedPlaceholders "SELECT x FROM t" = "SELECT x FROM t" := by
      decide +kernel
    simp only [askingTwice, List.forall_mem_cons, FrontendMessage.Fits, statements, numbered]
    refine ⟨⟨query, nofun⟩, query, ?_, trivial, trivial, trivial, nofun⟩
    intro types e he
    cases he
  exact ⟨⟨persevering, fits⟩, session_survives_its_engine s persevering askingTwice fits⟩

/-- A NUL in the name of a column, or in the text of an error, ends the session. The client has not
left, and is told nothing. -/
theorem unspeakable_answers_end_session :
    let query := FrontendMessage.query "SELECT 1"
    let named := admittedTo [.rows { columns := [⟨"a\x00b", none⟩], answers := [] }]
    let worded := admittedTo [.error "no such column: \x00" none]
    (named.stage = .serving ∧ named.writesLeft = none ∧
        (named.takeAll [query]).stage =
          .ended (some (.io "cstr must not contain a NUL byte")) ∧
        Intake.sent ⟨named, query, named.takeIn (.ok query)⟩ = []) ∧
      worded.stage = .serving ∧ worded.writesLeft = none ∧
        (worded.takeAll [query]).stage =
          .ended (some (.io "cstr must not contain a NUL byte")) ∧
        Intake.sent ⟨worded, query, worded.takeIn (.ok query)⟩ = [] := by
  decide +kernel

end Session

end SqlWire
