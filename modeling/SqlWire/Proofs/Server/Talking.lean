import SqlWire.Proofs.Server.Acts

/-!
# What a session does besides running statements

A session greets its client, holds the statement that was prepared, reports errors and says that
it is ready. A predicate that depends on none of this, `Session.Talks`, is kept by every message
but those with which a statement is run.
-/

namespace SqlWire

namespace Session

variable {η : Type} [Journal η]

/-- The predicate depends neither on what the session says nor on the statement that it holds, nor
on how far it has come with its client. -/
structure Talks (P : Session η → Prop) : Prop where
  wrote : ∀ {s} left, P s → P { s with writesLeft := left }
  said : ∀ {s} o, P s → P (s.say o)
  held : ∀ {s} prepared portal skipping, P s → P { s with prepared, portal, skipping }
  onward : ∀ {s} stage, stage ≠ .startup → (∀ error, stage ≠ .ended error) → P s →
    P { s with stage }
  aborted : ∀ {s}, P s → P s.abort

abbrev Keeping (P : Session η → Prop) (work : ServingIn η α) : Prop :=
  Ensures P work (fun _ => P) (fun _ => P)

namespace Talks

variable {P : Session η → Prop} (hP : Talks P)
include hP

theorem write : Keeping P useWrite :=
  useWrite_acts fun _ left h => hP.wrote left h

theorem say (m : BackendMessage) : Keeping P (send m) :=
  send_acts m (fun _ left h => hP.wrote left h) fun _ h => hP.said _ h

theorem ready : Keeping P ready :=
  Ensures.get_bind fun _ hs => Ensures.of_eq hs ((hP.say _).bind fun _ => hP.write)

theorem report (d : Diagnostic) : Keeping P (extendedError d) := by
  refine Ensures.bind (Q := fun _ => P) (Ensures.modify fun s h => ?_) fun _ => hP.say _
  exact hP.held s.prepared s.portal true (hP.aborted h)

/-- The session holds another statement, and goes on. -/
theorem hold {f : Session η → Session η} {work : Unit → ServingIn η α}
    (hf : ∀ s, ∃ prepared portal skipping, f s = { s with prepared, portal, skipping })
    (h : Keeping P (work ())) : Keeping P ((modify f : ServingIn η Unit) >>= work) := by
  refine Ensures.bind (Q := fun _ => P) (Ensures.modify fun s hs => ?_) fun _ => h
  obtain ⟨prepared, portal, skipping, he⟩ := hf s
  rw [he]
  exact hP.held prepared portal skipping hs

theorem bind (params : List (Option Bytes)) : Keeping P (bind params) := by
  refine Ensures.get_bind fun s hs => Ensures.of_eq hs ?_
  cases s.prepared with
  | none => exact hP.report _
  | some p =>
      dsimp only
      cases bindParams p.paramTypes params with
      | error e => exact hP.report _
      | ok values => exact hP.hold (fun _ => ⟨_, _, _, rfl⟩) (hP.say _)

theorem describe (target : DescribeTarget) : Keeping P (describe target) := by
  refine Ensures.get_bind fun s hs => Ensures.of_eq hs ?_
  cases target with
  | statement => exact hP.report _
  | portal =>
      cases s.portal with
      | none => exact hP.report _
      | some p =>
          exact Ensures.modify fun s hs => hP.held s.prepared (some { p with described := true })
            s.skipping hs

/-- A message keeps the predicate if the statements that it has the session run keep it. -/
theorem handle {s : Session η} (hs : P s) (m : FrontendMessage)
    (query : ∀ sql, m = .query sql →
      Ensures (· = s) (simpleQuery sql) (fun _ => P) (fun _ => P))
    (execute : ∀ portal rows, m = .execute portal rows →
      Ensures (· = s) executePortal (fun _ => P) (fun _ => P)) :
    Ensures (· = s) (handle m) (fun _ => P) (fun _ => P) := by
  have goes {I : Session η → Prop} {work : ServingIn η Unit}
      (h : Ensures I work (fun _ => P) (fun _ => P)) :
      Ensures I (work >>= fun _ => pure true) (fun _ => P) (fun _ => P) :=
    h.bind fun _ => Ensures.pure fun _ h => h
  unfold Session.handle
  refine Ensures.get_bind fun t ht => ?_
  subst ht
  split
  · exact Ensures.of_eq hs (Ensures.pure fun _ h => h)
  · dsimp only
    cases m with
    | query sql => exact (query sql rfl).bind fun _ => goes hP.ready
    | parse name sql types =>
        exact Ensures.of_eq hs (hP.hold (fun _ => ⟨_, _, _, rfl⟩) (goes (hP.say _)))
    | bind portal statement params => exact goes (Ensures.of_eq hs (hP.bind params))
    | describe target name => exact goes (Ensures.of_eq hs (hP.describe target))
    | execute portal rows => exact goes (execute portal rows rfl)
    | sync => exact Ensures.of_eq hs (hP.hold (fun _ => ⟨_, _, _, rfl⟩) (goes hP.ready))
    | flush => exact goes (Ensures.of_eq hs hP.write)
    | terminate => exact Ensures.of_eq hs (Ensures.pure fun _ h => h)
    | sslRequest | startup | password =>
        exact Ensures.of_eq hs ((hP.say _).bind fun _ => goes hP.write)

theorem enter {stage : Stage} {work : Unit → ServingIn η α} (hs : stage ≠ .startup)
    (he : ∀ error, stage ≠ .ended error) (h : Keeping P (work ())) :
    Keeping P ((modify fun s => { s with stage } : ServingIn η Unit) >>= work) :=
  Ensures.bind (Q := fun _ => P) (Ensures.modify fun _ h => hP.onward stage hs he h) fun _ => h

/-- What a session says of itself to a client that it has just let in. -/
theorem introduce (user : String) (applicationName : Option String) :
    Keeping P (do
      send (.parameterStatus "client_encoding" "UTF8")
      send (.parameterStatus "server_version" serverVersion)
      send (.parameterStatus "session_authorization" user)
      if let some name := applicationName then send (.parameterStatus "application_name" name)
      let s ← get
      send (.backendKeyData s.processId s.secretKey)
      Session.ready
      modify fun s => { s with stage := .serving }
      return true) := by
  have rest : Keeping P (do
      let s ← get
      send (.backendKeyData s.processId s.secretKey)
      Session.ready
      modify fun s => { s with stage := .serving }
      return true) := by
    refine Ensures.get_bind fun s hs => Ensures.of_eq hs ?_
    refine (hP.say _).bind fun _ => hP.ready.bind fun _ => ?_
    exact hP.enter (by simp) (by simp) (Ensures.pure fun _ h => h)
  refine (hP.say _).bind fun _ => (hP.say _).bind fun _ => (hP.say _).bind fun _ => ?_
  cases applicationName with
  | none => exact rest
  | some name => exact (hP.say _).bind fun _ => rest

theorem welcome (user : String) (applicationName : Option String) :
    Keeping P (welcome user applicationName) :=
  (hP.say _).bind fun _ => hP.introduce user applicationName

theorem meet (m : FrontendMessage) : Keeping P (meet m) := by
  have done (go : Bool) : Keeping P (pure go : ServingIn η Bool) := Ensures.pure fun _ h => h
  cases m with
  | sslRequest =>
      refine Ensures.bind hP.write fun _ => Ensures.bind (Q := fun _ => P) ?_
        fun _ => Ensures.bind hP.write fun _ => done true
      exact Ensures.modify fun _ h => hP.said .sslRefusal h
  | startup version params =>
      refine Ensures.get_bind fun s hs => Ensures.of_eq hs ?_
      split
      · refine (hP.say _).bind fun _ => Ensures.bind hP.write fun _ => ?_
        exact hP.enter (by simp) (by simp) (done true)
      · exact hP.welcome _ _
  | _ => exact done false

theorem checkPassword (user : String) (applicationName : Option String) (m : FrontendMessage) :
    Keeping P (checkPassword user applicationName m) := by
  have turned (given : String) : Keeping P (do
      if (← get).config.password = some given then Session.welcome user applicationName
      else
        send (.errorResponse (.fatal SqlState.invalidPassword
          ("password authentication failed for user \"" ++ user ++ "\"")))
        Session.flush
        return false) := by
    refine Ensures.get_bind fun s hs => Ensures.of_eq hs ?_
    split
    · exact hP.welcome _ _
    · exact (hP.say _).bind fun _ => Ensures.bind hP.write fun _ => Ensures.pure fun _ h => h
  exact turned _

omit hP [Journal η] in
/-- Work that keeps the predicate leads to where it holds, or to the end from there. -/
theorem after {Q : Session η → Prop} (on : ∀ {s}, P s → Q s)
    (ended : ∀ {s} error, P s → Q (s.finish error)) {work : ServingIn η Bool} {s : Session η}
    (h : Ensures (· = s) work (fun _ => P) (fun _ => P)) : Q (s.after work) := by
  refine after_either (h.mono (fun _ h => h) ?_ fun e _ h => ended (some e) h)
  intro go s' hs
  split
  · exact on hs
  · exact ended none hs

/-- Whatever a session takes in keeps the predicate, up to its end, if the statements that it has
the session run keep it. -/
theorem takeIn {Q : Session η → Prop} (on : ∀ {s}, P s → Q s)
    (ended : ∀ {s} error, P s → Q (s.finish error)) {s : Session η} (hs : P s)
    (read : Except WireError FrontendMessage)
    (query : ∀ sql, read = .ok (.query sql) →
      Ensures (· = s) (simpleQuery sql) (fun _ => P) (fun _ => P))
    (execute : ∀ portal rows, read = .ok (.execute portal rows) →
      Ensures (· = s) executePortal (fun _ => P) (fun _ => P)) : Q (s.takeIn read) := by
  have done {work : ServingIn η Bool} (h : Ensures (· = s) work (fun _ => P) (fun _ => P)) :
      Q (s.after work) := after (Q := Q) on ended h
  unfold Session.takeIn
  cases read with
  | error e => exact ended _ hs
  | ok m =>
      cases s.stage with
      | startup => exact done (Ensures.of_eq hs (hP.meet m))
      | password user applicationName =>
          exact done (Ensures.of_eq hs (hP.checkPassword user applicationName m))
      | serving =>
          refine done (hP.handle hs m (fun sql hm => ?_) fun portal rows hm => ?_)
          · exact query sql (congrArg _ hm)
          · exact execute portal rows (congrArg _ hm)
      | ended error => exact on hs

end Talks

end Session

end SqlWire
