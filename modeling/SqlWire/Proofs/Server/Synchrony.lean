import SqlWire.Proofs.Server.Brackets

/-!
# How a session keeps step with its client

A client knows that its request is answered when the session says that it is ready. The session
says so once for each request for synchronisation and for each query that it does not drop, at
the end of the answer, and never else. It drops messages after one on a bound statement failed,
until the client asks for synchronisation.
-/

namespace SqlWire

def Outgoing.isReady : Outgoing → Bool
  | .message (.readyForQuery _) => true
  | _ => false

def Outgoing.isReport : Outgoing → Bool
  | .message (.errorResponse _) => true
  | _ => false

def Outgoing.isPart : Outgoing → Bool
  | .message m => m.isPart
  | .sslRefusal => false

theorem Outgoing.not_ready_of_isPart {o : Outgoing} (h : o.isPart = true) : o.isReady = false := by
  unfold isReady
  split
  · cases h
  · rfl

theorem Outgoing.not_report_of_isPart {o : Outgoing} (h : o.isPart = true) :
    o.isReport = false := by
  unfold isReport
  split
  · cases h
  · rfl

/-- Whether a message is about the bound statement, so that its failure makes the session drop
what follows. -/
def FrontendMessage.isExtended : FrontendMessage → Bool
  | .bind .. | .describe .. | .execute .. => true
  | _ => false

structure Intake (η : Type := Unit) where
  before : Session η
  message : FrontendMessage
  after : Session η

namespace Intake

variable {η : Type}

def sent (x : Intake η) : List Outgoing :=
  (x.after.sent.take (x.after.sent.length - x.before.sent.length)).reverse

def calls (x : Intake η) : List EngineCall :=
  (x.after.engine.calls.take (x.after.engine.calls.length - x.before.engine.calls.length)).reverse

/-- The errors that the session reported because of a message about the bound statement. -/
def failures (x : Intake η) : List Outgoing :=
  if x.message.isExtended then x.sent.filter Outgoing.isReport else []

/-- The session answers the message by saying that it is ready. -/
def Synchronises (dropping : Prop) (x : Intake η) : Prop :=
  x.message = .sync ∨ (∃ sql, x.message = .query sql) ∧ ¬dropping

theorem sent_eq {x : Intake η} {out : List Outgoing}
    (h : x.after.sent = out.reverse ++ x.before.sent) : x.sent = out := by
  simp [sent, h]

theorem sent_recorded {x : Intake η} {new : List Outgoing}
    (h : x.after.sent = new ++ x.before.sent) : x.after.sent = x.sent.reverse ++ x.before.sent := by
  simp [sent, h]

theorem calls_recorded {x : Intake η} {new : List EngineCall}
    (h : x.after.engine.calls = new ++ x.before.engine.calls) :
    x.after.engine.calls = x.calls.reverse ++ x.before.engine.calls := by
  simp [Intake.calls, h]

theorem calls_eq {x : Intake η} {calls : List EngineCall}
    (h : x.after.engine.calls = calls.reverse ++ x.before.engine.calls) : x.calls = calls := by
  simp [Intake.calls, h]

end Intake

section

variable {η : Type}

/-- After these intakes messages are dropped: a message about the bound statement failed, and the
client has not asked for synchronisation since. -/
def Dropping (xs : List (Intake η)) : Prop :=
  ∃ earlier x later, xs = earlier ++ x :: later ∧ x.failures ≠ [] ∧ ∀ y ∈ later, y.message ≠ .sync

end

namespace Session

variable {η : Type} [Journal η]

def takeAll (s : Session η) (ms : List FrontendMessage) : Session η :=
  ms.foldl (fun s m => s.takeIn (.ok m)) s

def intakes (s : Session η) : List FrontendMessage → List (Intake η)
  | [] => []
  | m :: ms => ⟨s, m, s.takeIn (.ok m)⟩ :: (s.takeIn (.ok m)).intakes ms

/-! ## What one message is answered -/

structure Said (fits : Outgoing → Bool) (skipping : Bool) (t s : Session η) : Prop where
  stage : s.stage = t.stage
  skipping : s.skipping = skipping
  sent : ∃ out, s.sent = out ++ t.sent ∧ ∀ o ∈ out, fits o = true
  journal : Journal.Adds true t.journal s.journal

section

variable {fits : Outgoing → Bool} {skipping : Bool} {t s u : Session η}

theorem Said.refl (h : t.skipping = skipping) : Said fits skipping t t :=
  ⟨rfl, h, ⟨[], rfl, by simp⟩, .refl _⟩

theorem Said.of_eq (h : Said fits skipping t s) (hg : u.stage = s.stage)
    (hk : u.skipping = s.skipping) (hs : u.sent = s.sent) (hj : u.journal = s.journal) :
    Said fits skipping t u :=
  ⟨hg.trans h.stage, hk.trans h.skipping, hs ▸ h.sent, hj ▸ h.journal⟩

theorem Said.say (h : Said fits skipping t s) {o : Outgoing} (hm : fits o = true) :
    Said fits skipping t (s.say o) := by
  obtain ⟨out, ho, hf⟩ := h.sent
  refine ⟨h.stage, h.skipping, ⟨o :: out, congrArg _ ho, ?_⟩, ?_⟩
  · exact List.forall_mem_cons.2 ⟨hm, hf⟩
  · exact h.journal.trans (Speaks.say (fun he => by cases he) s).journal

theorem Said.mono {fits' : Outgoing → Bool} (h : Said fits skipping t s)
    (hf : ∀ o, fits o = true → fits' o = true) : Said fits' skipping t s := by
  obtain ⟨out, ho, ho'⟩ := h.sent
  exact ⟨h.stage, h.skipping, ⟨out, ho, fun o h => hf o (ho' o h)⟩, h.journal⟩

/-- What is said in the course of a statement belongs to the inside of an answer. -/
theorem Said.acts {free : String → Prop} (h : Said Outgoing.isPart skipping t s)
    (ha : Acts free s u) : Said Outgoing.isPart skipping t u := by
  induction ha with
  | refl => exact h
  | @tail u v _ hm ih =>
      have noted : Move true u v := hm.move
      have journal := ih.journal.trans noted.adds
      cases hm with
      | said m hm => exact ih.say hm
      | _ => exact ⟨ih.stage, ih.skipping, ih.sent, journal⟩

structure Ready (t s : Session η) : Prop where
  stage : s.stage = t.stage
  skipping : s.skipping = false
  sent : ∃ out, s.sent = .message (.readyForQuery s.status) :: (out ++ t.sent) ∧
    ∀ o ∈ out, o.isReady = false

/-- The last thing that the session did since `t` is to report a failure, and it drops what
follows. -/
def Failure (t s : Session η) : Prop :=
  ∃ report u, Said Outgoing.isPart true t u ∧ s = u.say (.message (.errorResponse report))

abbrev Reaches (P : Session η → Prop) (work : ServingIn η α) (Q : α → Session η → Prop) : Prop :=
  Ensures P work Q fun _ _ => True

theorem Said.send {m : BackendMessage} (hm : fits (.message m) = true) :
    Reaches (Said fits skipping t) (send m) fun _ => Said fits skipping t :=
  (send_acts m (fun _ _ h => h.of_eq rfl rfl rfl rfl) fun _ h => h.say hm).mono (fun _ h => h)
    (fun _ _ h => h) fun _ _ _ => trivial

theorem flush_said : Reaches (Said fits skipping t) flush fun _ => Said fits skipping t :=
  (useWrite_acts fun _ _ h => h.of_eq rfl rfl rfl rfl).mono (fun _ h => h) (fun _ _ h => h)
    fun _ _ _ => trivial

theorem runStatement_said (sql : String) (params : List Value) (describing : Describing) :
    Reaches (Said Outgoing.isPart skipping t) (runStatement sql params describing).run
      fun _ => Said Outgoing.isPart skipping t := by
  constructor
  intro s hs
  refine Ends.mono ((runStatement_does sql params describing).run s rfl) (fun result s' h => ?_)
    fun _ _ _ => trivial
  cases result with
  | ok u => exact hs.acts h
  | error report => exact hs.acts h.1

theorem not_ready_of_isPart {o : Outgoing} (h : o.isPart = true) : (!o.isReady) = true := by
  rw [o.not_ready_of_isPart h]
  rfl

theorem runQuery_said (statements : List String) :
    Reaches (Said Outgoing.isPart skipping t) (runQuery statements)
      fun _ => Said (fun o => !o.isReady) skipping t := by
  induction statements with
  | nil => exact Ensures.pure fun _ h => h.mono fun _ => not_ready_of_isPart
  | cons sql statements ih =>
      refine (runStatement_said sql [] .simple).bind fun result => ?_
      cases result with
      | ok u => exact ih
      | error report =>
          exact (Said.send rfl).mono (fun _ h => h.mono fun _ => not_ready_of_isPart)
            (fun _ _ h => h) fun _ _ h => h

theorem simpleQuery_said (sql : String) :
    Reaches (Said Outgoing.isPart skipping t) (simpleQuery sql)
      fun _ => Said (fun o => !o.isReady) skipping t := by
  unfold simpleQuery
  dsimp only
  split
  · exact (Said.send rfl).mono (fun _ h => h.mono fun _ => not_ready_of_isPart)
      (fun _ _ h => h) fun _ _ h => h
  · exact runQuery_said _

theorem ready_said : Reaches (Said (fun o => !o.isReady) false t) ready fun _ => Ready t := by
  refine Ensures.get_bind fun s hs => ?_
  refine Ensures.bind (Q := fun _ => Ready t) ?_ fun _ => ?_
  · refine (send_acts (.readyForQuery s.status) (P := fun u => ∃ left,
      u = { s with writesLeft := left }) (Q := Ready t) ?_ ?_).mono ?_ (fun _ _ h => h)
      fun _ _ _ => trivial
    · rintro _ left ⟨_, rfl⟩
      exact ⟨left, rfl⟩
    · rintro _ ⟨left, rfl⟩
      obtain ⟨out, ho, hf⟩ := hs.sent
      exact ⟨hs.stage, hs.skipping, out, congrArg _ ho, fun o h => by simpa using hf o h⟩
    · rintro _ rfl
      exact ⟨_, rfl⟩
  · refine (useWrite_acts fun u left h => ?_).mono (fun _ h => h) (fun _ _ h => h)
      fun _ _ _ => trivial
    exact ⟨h.stage, h.skipping, h.sent⟩

theorem extendedError_fails (report : Diagnostic) :
    Reaches (Said Outgoing.isPart false t) (extendedError report) fun _ => Failure t := by
  refine Ensures.bind (Q := fun _ => Said Outgoing.isPart true t) (Ensures.modify ?_) fun _ => ?_
  · exact fun s h => ⟨h.stage, rfl, h.sent, h.journal⟩
  · exact (send_acts _ (fun _ _ h => h.of_eq rfl rfl rfl rfl) fun s h => ⟨report, s, h, rfl⟩).mono
      (fun _ h => h) (fun _ _ h => h) fun _ _ _ => trivial

def Handled (t s : Session η) : Prop :=
  Said Outgoing.isPart false t s ∨ Failure t s

theorem extendedError_handled (report : Diagnostic) :
    Reaches (Said Outgoing.isPart false t) (extendedError report) fun _ => Handled t :=
  (extendedError_fails report).mono (fun _ h => h) (fun _ _ h => .inr h) fun _ _ h => h

theorem send_handled {m : BackendMessage} (hm : m.isPart = true) :
    Reaches (Said Outgoing.isPart false t) (send m) fun _ => Handled t :=
  (Said.send hm).mono (fun _ h => h) (fun _ _ h => .inl h) fun _ _ h => h

theorem bind_handled (params : List (Option Bytes)) :
    Reaches (Said Outgoing.isPart false t) (bind params) fun _ => Handled t := by
  refine Ensures.get_bind fun s hs => Ensures.of_eq hs ?_
  cases s.prepared with
  | none => exact extendedError_handled _
  | some p =>
      dsimp only
      cases bindParams p.paramTypes params with
      | error e => exact extendedError_handled _
      | ok values =>
          exact (Ensures.modify fun _ h => h.of_eq rfl rfl rfl rfl).bind fun _ => send_handled rfl

theorem describe_handled (target : DescribeTarget) :
    Reaches (Said Outgoing.isPart false t) (describe target) fun _ => Handled t := by
  refine Ensures.get_bind fun s hs => Ensures.of_eq hs ?_
  cases target with
  | statement => exact extendedError_handled _
  | portal =>
      cases s.portal with
      | none => exact extendedError_handled _
      | some p => exact Ensures.modify fun _ h => .inl (h.of_eq rfl rfl rfl rfl)

theorem executePortal_handled :
    Reaches (Said Outgoing.isPart false t) executePortal fun _ => Handled t := by
  refine Ensures.get_bind fun s hs => Ensures.of_eq hs ?_
  cases s.portal with
  | none => exact extendedError_handled _
  | some p =>
      refine Ensures.bind (Q := fun _ => Said Outgoing.isPart false t)
        (Ensures.modify fun _ h => h.of_eq rfl rfl rfl rfl) fun _ => ?_
      split
      · exact send_handled rfl
      · split
        · exact extendedError_handled _
        · refine (runStatement_said _ _ _).bind fun result => ?_
          cases result with
          | ok u => exact Ensures.pure fun _ h => .inl h
          | error report => exact extendedError_handled report

/-- The last thing that the session did since `s` is to report an error. -/
def EndsReporting (report : Diagnostic) (s s' : Session η) : Prop :=
  ∃ u : Session η, Journal.Adds true s.journal u.journal ∧
    s' = u.say (.message (.errorResponse report))

inductive Response (s : Session η) (m : FrontendMessage) (s' : Session η) : List Outgoing → Prop
  | dropped (hk : s.skipping = true) (hm : m ≠ .sync) (ht : m ≠ .terminate) (hs : s' = s) :
      Response s m s' []
  | left (hm : m = .terminate) (hs : s' = s.finish none) : Response s m s' []
  | ready (hm : m = .sync ∨ s.skipping = false ∧ ∃ sql, m = .query sql)
      (hg : s'.stage = .serving) (hk : s'.skipping = false) {out : List Outgoing}
      (ho : ∀ o ∈ out, o.isReady = false) :
      Response s m s' (out ++ [.message (.readyForQuery s'.status)])
  | failed (hk : s.skipping = false) (hm : m.isExtended = true) (hg : s'.stage = .serving)
      (hk' : s'.skipping = true) {out : List Outgoing} (ho : ∀ o ∈ out, o.isPart = true)
      {report : Diagnostic} (hl : EndsReporting report s s') :
      Response s m s' (out ++ [.message (.errorResponse report)])
  | worked (hk : s.skipping = false) (hm : m ≠ .sync ∧ m ≠ .terminate ∧ ∀ sql, m ≠ .query sql)
      (hg : s'.stage = .serving) (hk' : s'.skipping = false) {out : List Outgoing}
      (ho : ∀ o ∈ out, o.isReady = false)
      (hp : m.isExtended = true → ∀ o ∈ out, o.isPart = true) : Response s m s' out

def Responds (s : Session η) (m : FrontendMessage) (s' : Session η) : Prop :=
  ∃ out, s'.sent = out.reverse ++ s.sent ∧ Response s m s' out

theorem Ready.responds {m : FrontendMessage} (h : Ready t s) (ht : t.stage = .serving)
    (hm : m = .sync ∨ u.skipping = false ∧ ∃ sql, m = .query sql) (hu : t.sent = u.sent) :
    Responds u m s := by
  obtain ⟨out, ho, hf⟩ := h.sent
  refine ⟨out.reverse ++ [.message (.readyForQuery s.status)], by simp [ho, hu],
    .ready hm (h.stage.trans ht) h.skipping ?_⟩
  simpa using hf

theorem Handled.responds {m : FrontendMessage} (h : Handled t s) (ht : t.stage = .serving)
    (hk : t.skipping = false) (hm : m.isExtended = true) : Responds t m s := by
  rcases h with h | h
  · obtain ⟨out, ho, hf⟩ := h.sent
    have hf : ∀ o ∈ out.reverse, o.isPart = true := by simpa using hf
    refine ⟨out.reverse, by simp [ho], .worked hk ?_ (h.stage.trans ht) h.skipping
      (fun o ho => o.not_ready_of_isPart (hf o ho)) fun _ => hf⟩
    cases m with
    | bind | describe | execute => simp
    | _ => cases hm
  · obtain ⟨report, u, h, he⟩ := h
    obtain ⟨out, ho, hf⟩ := h.sent
    refine ⟨out.reverse ++ [.message (.errorResponse report)], ?_, .failed hk hm ?_ ?_ ?_
      ⟨u, h.journal, he⟩⟩
    · simp [he, say, noting, ho]
    · exact (congrArg stage he).trans (h.stage.trans ht)
    · exact (congrArg skipping he).trans h.skipping
    · simpa using hf

theorem Said.responds {m : FrontendMessage} (h : Said (fun o => !o.isReady) false t s)
    (ht : t.stage = .serving) (hk : t.skipping = false)
    (hm : m ≠ .sync ∧ m ≠ .terminate ∧ ∀ sql, m ≠ .query sql) (he : m.isExtended = false) :
    Responds t m s := by
  obtain ⟨out, ho, hf⟩ := h.sent
  refine ⟨out.reverse, by simp [ho], .worked hk hm (h.stage.trans ht) h.skipping ?_ ?_⟩
  · simpa using hf
  · exact fun h => by rw [he] at h; cases h

theorem goes_responding {m : FrontendMessage} {work : ServingIn η Unit} {P Q : Session η → Prop}
    (h : Reaches P work fun _ => Q) (hQ : ∀ u, Q u → Responds s m u) :
    Reaches P (work >>= fun _ => pure true)
      fun go u => Responds s m (if go then u else u.finish none) :=
  h.bind fun _ => Ensures.pure fun u hu => hQ u hu

theorem handle_responds (hs : s.stage = .serving) (m : FrontendMessage) :
    Reaches (· = s) (handle m) fun go u => Responds s m (if go then u else u.finish none) := by
  unfold handle
  refine Ensures.get_bind fun u hu => ?_
  obtain rfl : s = u := hu.symm
  split
  · next hk =>
      refine Ensures.pure fun u hu => ?_
      obtain rfl : s = u := hu.symm
      exact ⟨[], rfl, .dropped hk.1 hk.2.1 hk.2.2 rfl⟩
  · next hk =>
      have going (hm : m ≠ .sync) (ht : m ≠ .terminate) : s.skipping = false :=
        Bool.eq_false_iff.2 fun h => hk ⟨h, hm, ht⟩
      -- what the other messages begin with
      have begins {fits : Outgoing → Bool} (hm : m ≠ .sync) (ht : m ≠ .terminate) :
          Said fits false s s := .refl (going hm ht)
      have spoken (hm : m ≠ .sync ∧ m ≠ .terminate ∧ ∀ sql, m ≠ .query sql)
          (he : m.isExtended = false) (u : Session η) (hu : Said (fun o => !o.isReady) false s u) :
          Responds s m u := hu.responds hs (going hm.1 hm.2.1) hm he
      have handled (hm : m ≠ .sync) (ht : m ≠ .terminate) (he : m.isExtended = true) (u : Session η)
          (hu : Handled s u) : Responds s m u := hu.responds hs (going hm ht) he
      dsimp only
      cases m with
      | query sql =>
          have hk := going (by simp) (by simp)
          exact (Ensures.of_eq (.refl hk) (simpleQuery_said sql)).bind fun _ =>
            goes_responding ready_said fun u hu => hu.responds hs (.inr ⟨hk, sql, rfl⟩) rfl
      | parse name sql types =>
          refine Ensures.modify_bind (Ensures.of_eq (P := Said (fun o => !o.isReady) false s) ?_
            (goes_responding (Said.send rfl) (spoken (by simp) rfl)))
          exact (begins (by simp) (by simp)).of_eq rfl rfl rfl rfl
      | bind portal statement params =>
          exact Ensures.of_eq (begins (by simp) (by simp))
            (goes_responding (bind_handled params) (handled (by simp) (by simp) rfl))
      | describe target name =>
          exact Ensures.of_eq (begins (by simp) (by simp))
            (goes_responding (describe_handled target) (handled (by simp) (by simp) rfl))
      | execute portal maxRows =>
          exact Ensures.of_eq (begins (by simp) (by simp))
            (goes_responding executePortal_handled (handled (by simp) (by simp) rfl))
      | sync =>
          refine Ensures.modify_bind (Ensures.of_eq (.refl rfl) (goes_responding ready_said ?_))
          exact fun u hu => hu.responds hs (.inl rfl) rfl
      | flush =>
          exact Ensures.of_eq (begins (by simp) (by simp))
            (goes_responding flush_said (spoken (by simp) rfl))
      | terminate =>
          refine Ensures.pure fun u hu => ?_
          obtain rfl : s = u := hu.symm
          exact ⟨[], finish_sent none s, .left rfl rfl⟩
      | sslRequest | startup | password =>
          exact (Ensures.of_eq (begins (by simp) (by simp)) (Said.send rfl)).bind fun _ =>
            goes_responding flush_said (spoken (by simp) rfl)

/-- A serving session responds to every message, unless a write fails. -/
theorem takeIn_responds (hs : s.stage = .serving) (m : FrontendMessage)
    (hok : ∀ error, (s.takeIn (.ok m)).stage ≠ .ended (some error)) :
    Responds s m (s.takeIn (.ok m)) := by
  have taken : s.takeIn (.ok m) = s.after (handle m) := by simp only [takeIn, hs]
  rw [taken] at hok ⊢
  refine after_either (B := fun u => (∀ error, u.stage ≠ .ended (some error)) → Responds s m u)
    ((handle_responds hs m).mono (fun _ h => h) (fun _ _ h _ => h) ?_) hok
  exact fun error u _ h => absurd rfl (h error)

end

/-! ## Runs of messages -/

section

variable {s : Session η} {m : FrontendMessage} {ms : List FrontendMessage}

/-- No write and no encoding has failed so far. -/
def Intact (s : Session η) : Prop :=
  ∀ error, s.stage ≠ .ended (some error)

theorem takeIn_ended {error : Option ServerError} (h : s.stage = .ended error)
    (m : FrontendMessage) : s.takeIn (.ok m) = s := by
  simp only [takeIn, h]

theorem takeAll_ended {error : Option ServerError} (h : s.stage = .ended error)
    (ms : List FrontendMessage) : s.takeAll ms = s := by
  induction ms with
  | nil => rfl
  | cons m ms ih =>
      change (s.takeIn (.ok m)).takeAll ms = s
      rwa [takeIn_ended h]

theorem Intact.start (h : Intact (s.takeAll ms)) : Intact s := by
  intro error he
  rw [takeAll_ended he] at h
  exact h error he

theorem Intact.first (h : Intact (s.takeAll (m :: ms))) : Intact (s.takeIn (.ok m)) :=
  start h

theorem intakes_message (s : Session η) (ms : List FrontendMessage) :
    (s.intakes ms).map Intake.message = ms := by
  induction ms generalizing s with
  | nil => rfl
  | cons m ms ih => exact congrArg _ (ih _)

theorem takeAll_append (s : Session η) (ms ns : List FrontendMessage) :
    s.takeAll (ms ++ ns) = (s.takeAll ms).takeAll ns :=
  List.foldl_append

/-- Where a run of intakes is cut in two, the messages are too. -/
theorem intakes_split {earlier later : List (Intake η)} (h : s.intakes ms = earlier ++ later) :
    ∃ before behind, ms = before ++ behind ∧ earlier = s.intakes before ∧
      later = (s.takeAll before).intakes behind := by
  induction earlier generalizing s ms with
  | nil => exact ⟨[], ms, rfl, rfl, h.symm⟩
  | cons x earlier ih =>
      cases ms with
      | nil => cases h
      | cons m ms =>
          rw [intakes, List.cons_append, List.cons.injEq] at h
          obtain ⟨before, behind, rfl, rfl, rfl⟩ := ih h.2
          exact ⟨m :: before, behind, rfl, by rw [← h.1]; rfl, rfl⟩

theorem takeIn_serving (hs : s.stage = .serving) (m : FrontendMessage) :
    (s.takeIn (.ok m)).stage = .serving ∨ (s.takeIn (.ok m)).Over := by
  by_cases ho : (s.takeIn (.ok m)).Over
  · exact .inr ho
  · obtain ⟨out, -, h⟩ := takeIn_responds hs m fun error he => ho ⟨some error, he⟩
    cases h with
    | dropped _ _ _ he => exact .inl (by rw [he, hs])
    | left _ he => exact absurd (he ▸ finish_over none s) ho
    | ready _ hg => exact .inl hg
    | failed _ _ hg => exact .inl hg
    | worked _ _ hg => exact .inl hg

/-! ### What is added to the records -/

structure Grows (s u : Session η) : Prop where
  sent : s.sent <:+ u.sent
  calls : s.engine.calls <:+ u.engine.calls

theorem Engine.leave_grows (word : String) (e : Engine) : e.calls <:+ (e.leave word).2.calls := by
  have first : e.calls <:+ (e.execute word).2.calls :=
    Engine.execute_calls word e ▸ List.suffix_cons _ _
  unfold Engine.leave
  dsimp only
  split
  · exact first.trans (Engine.execute_calls "ROLLBACK" _ ▸ List.suffix_cons _ _)
  · exact first

theorem Move.grows {errors : Bool} {s u : Session η} (h : Move errors s u) : Grows s u := by
  cases h with
  | spoke h => exact ⟨h.sent, h.engine ▸ List.suffix_rfl⟩
  | asked call => exact ⟨List.suffix_rfl, Engine.make_calls _ call ▸ List.suffix_cons _ _⟩
  | refused | begun => exact ⟨List.suffix_rfl, Engine.execute_calls _ _ ▸ List.suffix_cons _ _⟩
  | left => exact ⟨List.suffix_rfl, Engine.leave_grows _ _⟩
  | aborted => exact ⟨List.suffix_rfl, List.suffix_rfl⟩

theorem Moves.grows {errors : Bool} {s u : Session η} (h : Moves errors s u) : Grows s u := by
  induction h with
  | refl => exact ⟨List.suffix_rfl, List.suffix_rfl⟩
  | tail _ hm ih => exact ⟨ih.sent.trans hm.grows.sent, ih.calls.trans hm.grows.calls⟩

omit [Journal η] in
theorem finish_grows (error : Option ServerError) (s : Session η) : Grows s (s.finish error) := by
  unfold finish
  dsimp only
  split
  · exact ⟨List.suffix_rfl, Engine.execute_calls _ _ ▸ List.suffix_cons _ _⟩
  · exact ⟨List.suffix_rfl, List.suffix_rfl⟩

theorem takeIn_grows (m : FrontendMessage) (s : Session η) : Grows s (s.takeIn (.ok m)) := by
  have course := takeIn_course (.ok m) s
  generalize s.takeIn (.ok m) = u at course ⊢
  cases course with
  | on h => exact h.grows
  | @ended u h error =>
      have last := finish_grows error u
      exact ⟨h.grows.sent.trans last.sent, h.grows.calls.trans last.calls⟩

end

end Session

/-- What an intake added to the records is read off them. -/
structure Intake.Recorded {η : Type} (x : Intake η) : Prop where
  sent : x.after.sent = x.sent.reverse ++ x.before.sent
  calls : x.after.engine.calls = x.calls.reverse ++ x.before.engine.calls

namespace Session

variable {η : Type} [Journal η]

theorem intakes_recorded (s : Session η) (ms : List FrontendMessage) :
    ∀ x ∈ s.intakes ms, x.Recorded := by
  induction ms generalizing s with
  | nil => simp [intakes]
  | cons m ms ih =>
      refine List.forall_mem_cons.2 ⟨?_, ih _⟩
      obtain ⟨⟨out, hs⟩, ⟨calls, hc⟩⟩ := takeIn_grows m s
      constructor
      · exact Intake.sent_recorded hs.symm
      · exact Intake.calls_recorded hc.symm

/-! ### From the greeting on -/

section

variable {s : Session η} {m : FrontendMessage} {ms ns : List FrontendMessage}

/-- The session drops messages only while it serves its client. -/
def Fresh (s : Session η) : Prop :=
  s.stage = .serving ∨ s.skipping = false ∨ s.Over

abbrev Polite (t : Session η) : Session η → Prop :=
  Said (fun _ => true) false t

theorem ready_polite {t : Session η} : Reaches (Polite t) ready fun _ => Polite t :=
  Ensures.get_bind fun _ hs => Ensures.of_eq hs ((Said.send rfl).bind fun _ => flush_said)

theorem welcome_fresh {t : Session η} (user : String) (applicationName : Option String) :
    Reaches (Polite t) (welcome user applicationName) fun _ s => s.skipping = false := by
  have rest : Reaches (Polite t) (do
      let s ← get
      send (.backendKeyData s.processId s.secretKey)
      ready
      modify fun s => { s with stage := .serving }
      return true) fun _ s => s.skipping = false := by
    refine Ensures.get_bind fun s hs => Ensures.of_eq (P := Polite t) hs ?_
    exact (Said.send rfl).bind fun _ => ready_polite.bind fun _ =>
      (Ensures.modify fun _ h => h.skipping).bind fun _ => Ensures.pure fun _ h => h
  unfold welcome
  refine (Said.send rfl).bind fun _ => (Said.send rfl).bind fun _ => ?_
  refine (Said.send rfl).bind fun _ => (Said.send rfl).bind fun _ => ?_
  cases applicationName with
  | none => exact rest
  | some name => exact (Said.send rfl).bind fun _ => rest

theorem meet_fresh {t : Session η} (m : FrontendMessage) :
    Reaches (Polite t) (meet m) fun _ s => s.skipping = false := by
  have stay (go : Bool) : Reaches (Polite t) (pure go : ServingIn η Bool)
      fun _ s => s.skipping = false := Ensures.pure fun _ h => h.skipping
  cases m with
  | sslRequest =>
      refine Ensures.bind (Q := fun _ => Polite t) flush_said fun _ => ?_
      exact Ensures.bind (Q := fun _ => Polite t) (Ensures.modify fun s h => h.say rfl) fun _ =>
        flush_said.bind fun _ => stay true
  | startup version params =>
      refine Ensures.get_bind fun s hs => Ensures.of_eq (P := Polite t) hs ?_
      split
      · exact (Said.send rfl).bind fun _ => flush_said.bind fun _ =>
          (Ensures.modify fun _ h => h.skipping).bind fun _ => Ensures.pure fun _ h => h
      · exact welcome_fresh _ _
  | _ => exact stay false

theorem checkPassword_fresh {t : Session η} (user : String) (applicationName : Option String)
    (m : FrontendMessage) :
    Reaches (Polite t) (checkPassword user applicationName m) fun _ s => s.skipping = false := by
  have turned (given : String) : Reaches (Polite t) (do
      if (← get).config.password = some given then welcome user applicationName
      else
        send (.errorResponse (.fatal SqlState.invalidPassword
          ("password authentication failed for user \"" ++ user ++ "\"")))
        flush
        return false) fun _ s => s.skipping = false := by
    refine Ensures.get_bind fun s hs => Ensures.of_eq (P := Polite t) hs ?_
    split
    · exact welcome_fresh _ _
    · refine (Said.send rfl).bind fun _ => Ensures.bind (Q := fun _ => Polite t) flush_said ?_
      exact fun _ => Ensures.pure fun _ h => h.skipping
  exact turned _

/-- A client that is being let in is dropped no message. -/
theorem takeIn_greeting (hs : s.stage ≠ .serving) (hk : s.skipping = false)
    (m : FrontendMessage) : (s.takeIn (.ok m)).skipping = false ∨ (s.takeIn (.ok m)).Over := by
  have greeted {work : ServingIn η Bool}
      (h : Reaches (Polite s) work fun _ s => s.skipping = false) :
      (s.after work).skipping = false ∨ (s.after work).Over := by
    refine after_either (B := fun u => u.skipping = false ∨ u.Over)
      ((Ensures.of_eq (.refl hk) h).mono (fun _ h => h) (fun go u hu => ?_) ?_)
    · cases go with
      | true => exact .inl hu
      | false => exact .inr (finish_over none u)
    · exact fun error u _ => .inr (finish_over (some error) u)
  cases hg : s.stage with
  | startup => simpa only [takeIn, hg] using greeted (meet_fresh m)
  | password user applicationName =>
      simpa only [takeIn, hg] using greeted (checkPassword_fresh user applicationName m)
  | serving => exact absurd hg hs
  | ended error => rw [takeIn_ended hg]; exact .inl hk

theorem Fresh.takeIn (h : Fresh s) (m : FrontendMessage) : Fresh (s.takeIn (.ok m)) := by
  by_cases hs : s.stage = .serving
  · exact (takeIn_serving hs m).imp id .inr
  · rcases h with h | hk | ⟨error, he⟩
    · exact absurd h hs
    · exact .inr (takeIn_greeting hs hk m)
    · rw [takeIn_ended he]
      exact .inr (.inr ⟨error, he⟩)

theorem Fresh.takeAll (h : Fresh s) (ms : List FrontendMessage) : Fresh (s.takeAll ms) := by
  induction ms generalizing s with
  | nil => exact h
  | cons m ms ih => exact ih (h.takeIn m)

/-- A session that has just let its client in drops no message. -/
theorem Fresh.admits (h : Fresh s) (hs : s.stage ≠ .serving)
    (hs' : (s.takeIn (.ok m)).stage = .serving) : (s.takeIn (.ok m)).skipping = false := by
  have going {u : Session η} (hu : u.stage = .serving) : ¬u.Over := by
    rintro ⟨error, he⟩
    rw [hu] at he
    cases he
  rcases h with h | hk | ⟨error, he⟩
  · exact absurd h hs
  · exact (takeIn_greeting hs hk m).resolve_right (going hs')
  · rw [takeIn_ended he] at hs'
    exact absurd hs' hs

end

/-! ### Messages that are dropped -/

section

variable {s : Session η} {m : FrontendMessage} {ms : List FrontendMessage} {past : List (Intake η)}

omit [Journal η] in
/-- Whether messages are dropped depends on the last intake, and on those before it unless it
was about synchronisation. -/
theorem dropping_concat (past : List (Intake η)) (x : Intake η) :
    Dropping (past ++ [x]) ↔ x.failures ≠ [] ∨ Dropping past ∧ x.message ≠ .sync := by
  constructor
  · rintro ⟨earlier, y, later, he, hy, hl⟩
    rcases List.eq_nil_or_concat later with rfl | ⟨later, z, rfl⟩
    · obtain ⟨rfl, hx⟩ := List.append_inj' he rfl
      cases hx
      exact .inl hy
    · rw [List.concat_eq_append] at he hl
      rw [← List.cons_append, ← List.append_assoc] at he
      obtain ⟨rfl, hx⟩ := List.append_inj' he rfl
      cases hx
      refine .inr ⟨⟨earlier, y, later, rfl, hy, fun z hz => hl z ?_⟩, hl x ?_⟩
      · exact List.mem_append_left _ hz
      · exact List.mem_append_right _ (List.mem_singleton_self _)
  · rintro (hx | ⟨⟨earlier, y, later, rfl, hy, hl⟩, hm⟩)
    · exact ⟨past, x, [], rfl, hx, by simp⟩
    · refine ⟨earlier, y, later ++ [x], by simp, hy, fun z hz => ?_⟩
      rcases List.mem_append.1 hz with hz | hz
      · exact hl z hz
      · rw [List.mem_singleton.1 hz]
        exact hm

/-- What a message does to whether messages are dropped: it fails, which is reported once, or it
goes well, and only synchronisation makes a difference. -/
theorem Response.failures {s' : Session η} {out : List Outgoing} (h : Response s m s' out)
    (hs : s'.sent = out.reverse ++ s.sent) :
    ((Intake.failures ⟨s, m, s'⟩).length = 1 ∧ s.skipping = false ∧ s'.skipping = true ∧
        ∃ parts report, out = parts ++ [.message (.errorResponse report)] ∧
          (∀ o ∈ parts, o.isPart = true) ∧ EndsReporting report s s') ∨
      Intake.failures ⟨s, m, s'⟩ = [] ∧
        (s'.stage = .serving → (s'.skipping = true ↔ s.skipping = true ∧ m ≠ .sync)) := by
  have sent : Intake.sent ⟨s, m, s'⟩ = out := Intake.sent_eq hs
  unfold Intake.failures
  rw [sent]
  cases h with
  | dropped hk hm ht he =>
      subst he
      exact .inr ⟨by simp, fun _ => ⟨fun h => ⟨h, hm⟩, fun h => h.1⟩⟩
  | left hm he =>
      subst he
      exact .inr ⟨by simp, fun h => by cases h⟩
  | ready hm hg hk ho =>
      refine .inr ⟨?_, fun _ => ?_⟩
      · rcases hm with rfl | ⟨-, sql, rfl⟩ <;> rfl
      · rw [hk]
        rcases hm with rfl | ⟨hk, -⟩
        · simp
        · simp [hk]
  | @failed hk hm hg hk' out ho report hl =>
      have none : out.filter Outgoing.isReport = [] :=
        List.filter_eq_nil_iff.2 fun o h => by simp [o.not_report_of_isPart (ho o h)]
      refine .inl ⟨?_, hk, hk', out, report, rfl, ho, hl⟩
      dsimp only
      rw [if_pos hm, List.filter_append, none]
      rfl
  | worked hk hm hg hk' ho hp =>
      refine .inr ⟨?_, fun _ => by simp [hk, hk']⟩
      split
      · next he =>
          exact List.filter_eq_nil_iff.2 fun o h => by simp [o.not_report_of_isPart (hp he o h)]
      · rfl

/-- The session drops messages exactly if what it took in so far tells so. -/
structure Tracks (past : List (Intake η)) (s : Session η) : Prop where
  stage : s.stage = .serving
  skipping : s.skipping = true ↔ Dropping past

theorem Tracks.takeIn (h : Tracks past s) (hok : Intact (s.takeIn (.ok m)))
    (hm : m ≠ .terminate) :
    Tracks (past ++ [⟨s, m, s.takeIn (.ok m)⟩]) (s.takeIn (.ok m)) := by
  obtain ⟨out, hs, hr⟩ := takeIn_responds h.stage m hok
  have stage : (s.takeIn (.ok m)).stage = .serving := by
    cases hr with
    | dropped _ _ _ he => rw [he, h.stage]
    | left ht => exact absurd ht hm
    | ready _ hg => exact hg
    | failed _ _ hg => exact hg
    | worked _ _ hg => exact hg
  refine ⟨stage, ?_⟩
  rw [dropping_concat]
  rcases hr.failures hs with ⟨hf, -, hk, -⟩ | ⟨hf, hk⟩
  · exact ⟨fun _ => .inl fun he => by simp [he] at hf, fun _ => hk⟩
  · rw [hk stage, h.skipping]
    simp [hf]

theorem Over.failures (h : s.Over) (ms : List FrontendMessage) :
    (s.intakes ms).flatMap Intake.failures = [] := by
  obtain ⟨error, he⟩ := h
  induction ms with
  | nil => rfl
  | cons m ms ih =>
      have first : Intake.failures ⟨s, m, s⟩ = [] := by
        simp [Intake.failures, Intake.sent]
      rw [intakes, takeIn_ended he, List.flatMap_cons, ih, first]
      rfl

/-- Until the next synchronisation at most one message about the bound statement fails, and none
while messages are dropped. -/
theorem failures_at_most_one (hs : s.stage = .serving ∨ s.Over) (hok : Intact (s.takeAll ms))
    (hm : ∀ m ∈ ms, m ≠ .sync) :
    ((s.intakes ms).flatMap Intake.failures).length ≤ if s.skipping then 0 else 1 := by
  induction ms generalizing s with
  | nil => exact Nat.zero_le _
  | cons m ms ih =>
      rcases hs with hs | ho
      · obtain ⟨out, hsent, hr⟩ := takeIn_responds hs m (Intact.first hok)
        have next := takeIn_serving hs m
        have rest := ih next hok fun m hm' => hm m (List.mem_cons_of_mem _ hm')
        rw [intakes, List.flatMap_cons, List.length_append]
        rcases hr.failures hsent with ⟨hf, hk, hk', -⟩ | ⟨hf, hk⟩
        · -- from this failure on messages are dropped, so that no other can fail
          rw [hk', if_pos rfl] at rest
          rw [hf, hk, if_neg Bool.false_ne_true]
          omega
        · rw [hf, List.length_nil, Nat.zero_add]
          rcases next with hg | ho
          · have same : (s.takeIn (.ok m)).skipping = s.skipping :=
              Bool.eq_iff_iff.2 ((hk hg).trans (and_iff_left (hm m List.mem_cons_self)))
            rwa [same] at rest
          · rw [ho.failures]
            exact Nat.zero_le _
      · rw [ho.failures]
        exact Nat.zero_le _

theorem takeAll_serving (hs : s.stage = .serving ∨ s.Over) (ms : List FrontendMessage) :
    (s.takeAll ms).stage = .serving ∨ (s.takeAll ms).Over := by
  induction ms generalizing s with
  | nil => exact hs
  | cons m ms ih =>
      rcases hs with hs | ⟨error, he⟩
      · exact ih (takeIn_serving hs m)
      · rw [takeAll_ended he]
        exact .inr ⟨error, he⟩

end

section

variable {s : Journaled} {m : FrontendMessage} {ms : List FrontendMessage}
  {past : List (Intake (List Remark))}

/-! ### Answers in step -/

/-- How a session answers a message that it takes in after others. -/
structure Synchronised (earlier : List (Intake (List Remark))) (x : Intake (List Remark)) :
    Prop where
  /-- It says once that it is ready, at the end of the answer. -/
  ready : x.Synchronises (Dropping earlier) → ∃ answer,
    x.sent = answer ++ [.message (.readyForQuery x.after.status)] ∧
      ∀ o ∈ answer, o.isReady = false
  silent : ¬x.Synchronises (Dropping earlier) → ∀ o ∈ x.sent, o.isReady = false
  /-- If the message fails, its report ends the answer, and the engine is afterwards what it was
  when the report was made. -/
  failed : x.failures ≠ [] → ∃ parts report noted,
    x.sent = parts ++ [.message (.errorResponse report)] ∧ (∀ o ∈ parts, o.isPart = true) ∧
      x.after.journal = .said (.message (.errorResponse report)) x.after.engine
        x.after.inTransaction :: (noted ++ x.before.journal)
  /-- What it drops, it does not answer, nor does it ask anything of its engine. -/
  dropped : Dropping earlier → x.message ≠ .sync →
    x.sent = [] ∧ (x.message ≠ .terminate → x.calls = [])

/-- A message that fails is reported last of all. -/
theorem Response.reported {s s' : Journaled} {out : List Outgoing} (h : Response s m s' out)
    (hs : s'.sent = out.reverse ++ s.sent) (hf : Intake.failures ⟨s, m, s'⟩ ≠ []) :
    ∃ parts report noted, out = parts ++ [.message (.errorResponse report)] ∧
      (∀ o ∈ parts, o.isPart = true) ∧
      s'.journal = .said (.message (.errorResponse report)) s'.engine s'.inTransaction ::
        (noted ++ s.journal) := by
  rcases h.failures hs with ⟨-, -, -, parts, report, ho, hp, u, ⟨noted, hj, -⟩, rfl⟩ | ⟨hn, -⟩
  · rw [Journal.noteAll_list] at hj
    exact ⟨parts, report, noted, ho, hp, congrArg _ hj⟩
  · exact absurd hn hf

theorem Tracks.answers (h : Tracks past s) (hok : Intact (s.takeIn (.ok m))) :
    Synchronised past ⟨s, m, s.takeIn (.ok m)⟩ := by
  obtain ⟨out, hs, hr⟩ := takeIn_responds h.stage m hok
  have sent : Intake.sent ⟨s, m, s.takeIn (.ok m)⟩ = out := Intake.sent_eq hs
  generalize s.takeIn (.ok m) = s' at hs hr sent
  have live (hd : s.skipping = false) : ¬Dropping past := by
    rw [← h.skipping, hd]
    simp
  have failed := hr.reported hs
  rw [← sent] at failed
  cases hr with
  | dropped hk hm ht he =>
      have quiet : ¬Intake.Synchronises (Dropping past) ⟨s, m, s'⟩ :=
        fun hd => hd.elim hm fun hd => hd.2 (h.skipping.1 hk)
      refine ⟨fun hd => absurd hd quiet, fun _ => by simp [sent], failed, fun _ _ =>
        ⟨sent, fun _ => ?_⟩⟩
      subst he
      exact Intake.calls_eq rfl
  | left hm he =>
      subst hm
      have quiet : ¬Intake.Synchronises (Dropping past) ⟨s, .terminate, s'⟩ := by
        simp [Intake.Synchronises]
      exact ⟨fun hd => absurd hd quiet, fun _ => by simp [sent], failed, fun _ _ =>
        ⟨sent, fun hm => absurd rfl hm⟩⟩
  | ready hm hg hk ho =>
      have loud : Intake.Synchronises (Dropping past) ⟨s, m, s'⟩ :=
        hm.imp id fun ⟨hk, hq⟩ => ⟨hq, live hk⟩
      refine ⟨fun _ => ⟨_, sent, ho⟩, fun hd => absurd loud hd, failed, fun hd hs => ?_⟩
      exact absurd hd (loud.resolve_left hs).2
  | failed hk hm hg hk' ho report =>
      have quiet : ¬Intake.Synchronises (Dropping past) ⟨s, m, s'⟩ := by
        rintro (hs | ⟨⟨sql, hs⟩, -⟩) <;> subst hs <;> cases hm
      refine ⟨fun hd => absurd hd quiet, fun _ => ?_, failed, fun hd => absurd hd (live hk)⟩
      rw [sent]
      intro o h
      rcases List.mem_append.1 h with h | h
      · exact o.not_ready_of_isPart (ho o h)
      · rw [List.mem_singleton.1 h]
        rfl
  | worked hk hm hg hk' ho hp =>
      have quiet : ¬Intake.Synchronises (Dropping past) ⟨s, m, s'⟩ :=
        fun hd => hd.elim hm.1 fun ⟨⟨sql, hq⟩, _⟩ => hm.2.2 sql hq
      exact ⟨fun hd => absurd hd quiet, fun _ => sent ▸ ho, failed, fun hd =>
        absurd hd (live hk)⟩

/-- As long as the client does not leave, every message is answered in step. -/
theorem Tracks.synchronised (h : Tracks past s) (hok : Intact (s.takeAll ms))
    {earlier later : List (Intake (List Remark))} {x : Intake (List Remark)}
    (hx : s.intakes ms = earlier ++ x :: later)
    (ht : ∀ y ∈ earlier, y.message ≠ .terminate) : Synchronised (past ++ earlier) x := by
  induction earlier generalizing s ms past with
  | nil =>
      cases ms with
      | nil => cases hx
      | cons m ms =>
          cases hx
          rw [List.append_nil]
          exact h.answers (Intact.first hok)
  | cons y earlier ih =>
      cases ms with
      | nil => cases hx
      | cons m ms =>
          rw [intakes, List.cons_append, List.cons.injEq] at hx
          obtain ⟨rfl, hx⟩ := hx
          have next := h.takeIn (Intact.first hok) (ht _ List.mem_cons_self)
          have := ih next hok hx fun y hy => ht y (List.mem_cons_of_mem _ hy)
          rwa [List.append_assoc] at this

end

section

variable (config : ServerConfig) (processId secretKey : Int32) (engine : Engine)
  (writes : Option Nat)

/-- A session that let its client in answers every message in step, as long as the client stays
and no write fails: it says that it is ready once for each request for synchronisation and for
each query that it does not drop, at the end of the answer, and never else. Once it reported that
a message about the bound statement failed, it neither sends anything nor asks anything of its
engine, in the rest of its work on this message as on the next, before the next synchronisation;
so at most one such failure is reported between two of them. -/
theorem session_stays_in_step (greeting : List FrontendMessage) (last : FrontendMessage)
    (ms : List FrontendMessage) :
    let t := (openedOn config processId secretKey engine writes).journaled.takeAll greeting
    let s := t.takeIn (.ok last)
    t.stage ≠ .serving → s.stage = .serving → Intact (s.takeAll ms) →
      (∀ x ∈ s.intakes ms, x.Recorded) ∧
      (∀ earlier x later, s.intakes ms = earlier ++ x :: later →
        (∀ y ∈ earlier, y.message ≠ .terminate) → Synchronised earlier x) ∧
      ∀ earlier window later, s.intakes ms = earlier ++ window ++ later →
        (∀ x ∈ window, x.message ≠ .sync) →
        (window.flatMap Intake.failures).length ≤ 1 := by
  intro t s ht hs hok
  have fresh : Fresh t := Fresh.takeAll (.inr (.inl rfl)) greeting
  have start : Tracks [] s := by
    refine ⟨hs, ?_⟩
    rw [fresh.admits ht hs]
    simp [Dropping]
  refine ⟨intakes_recorded s ms, fun earlier x later hx hy => ?_, ?_⟩
  · exact start.synchronised hok hx hy
  · intro earlier window later hw hm
    rw [List.append_assoc] at hw
    obtain ⟨before, rest, rfl, -, hw⟩ := intakes_split hw
    obtain ⟨middle, behind, rfl, rfl, -⟩ := intakes_split hw.symm
    rw [takeAll_append, takeAll_append] at hok
    have bound := failures_at_most_one (takeAll_serving (.inl hs) before) hok.start fun m h => by
      rw [← intakes_message (s.takeAll before) middle] at h
      obtain ⟨x, hx, rfl⟩ := List.mem_map.1 h
      exact hm x hx
    refine Nat.le_trans bound ?_
    split
    · exact Nat.zero_le _
    · exact Nat.le_refl _

end

def welcoming : Journaled :=
  (openedOn { databasePath := "" } 1 2 { answers := [.error "no such table: t" none] }
    none).journaled

def troubling : List FrontendMessage :=
  [.parse "" "SELECT x FROM t" [], .bind "" "" [], .execute "" 0, .query "SELECT 1", .sync,
    .query ""]

/-- The select is answered by its failure, the query behind it by nothing, synchronisation by word
that the session is ready, and the empty query by two messages. -/
theorem session_stays_in_step_failing :
    let s := welcoming.takeIn (.ok (.startup Protocol.version3 [("user", "u")]))
    let xs := s.intakes troubling
    xs.map (fun x => x.sent.length) = [1, 1, 1, 0, 1, 2] ∧
      (∀ earlier x later, xs = earlier ++ x :: later →
        (∀ y ∈ earlier, y.message ≠ .terminate) → Synchronised earlier x) ∧
      ((xs.take 4).flatMap Intake.failures).length ≤ 1 := by
  intro s xs
  have serving : s.stage = .serving := by decide +kernel
  have stays : (s.takeAll troubling).stage = .serving := by decide +kernel
  have step := session_stays_in_step { databasePath := "" } 1 2
    { answers := [.error "no such table: t" none] } none []
    (.startup Protocol.version3 [("user", "u")]) troubling (by decide) serving fun error he => by
      have he : (s.takeAll troubling).stage = .ended (some error) := he
      rw [stays] at he
      cases he
  refine ⟨by decide +kernel, step.2.1, step.2.2 [] (xs.take 4) (xs.drop 4) ?_ ?_⟩
  · exact (List.take_append_drop 4 xs).symm
  · decide +kernel

end Session

end SqlWire
