import SqlWire.Proofs.Server.Transactions

/-!
# Whole answers

A session that was asked for something and took all of it in is quiet again, with an answer that
says so, or it is over, with an answer that is cut off. `Session.Concludes` says that of one
request; it holds of a query, of the messages that run a bound statement, and of the messages
that let a client in.
-/

namespace SqlWire

namespace Session

def Over {η : Type} (s : Session η) : Prop :=
  ∃ error, s.stage = .ended error

structure Attending (s : Session) : Prop where
  stage : s.stage = .serving
  writes : s.writesLeft = none
  sound : s.Sound

structure Quiet (s : Session) : Prop extends Attending s where
  skipping : s.skipping = false

structure Alone (s : Session) : Prop where
  writes : s.writesLeft = none
  skipping : s.skipping = false
  outside : s.inTransaction = false
  healthy : s.aborted = false

inductive Closing : Phase → Session → Prop
  | quiet {s : Session} {status : TransactionStatus} (h : s.Quiet) (hs : s.status = status) :
      Closing (.ready status) s
  | ended {p : Phase} {s : Session} (h : s.Over) (hp : p.Open) : Closing p s
  | asked {s : Session} {user : String} {applicationName : Option String}
      (hs : s.stage = .password user applicationName) (h : s.Alone) : Closing .asked s

/-- Since `t` the session brought an answer that stood at `p` to its end. -/
def Concludes (p : Phase) (t s : Session) : Prop :=
  ∃ q, Goes p t q s ∧ Closing q s

def Finished (p : Phase) (t s : Session) : Prop :=
  ∃ q, Goes p t q s ∧ s.Quiet ∧ q.next (.readyForQuery s.status) = some (.ready s.status)

theorem finish_over {η : Type} (error : Option ServerError) (s : Session η) :
    (s.finish error).Over :=
  ⟨error, rfl⟩

@[simp] theorem finish_sent {η : Type} (error : Option ServerError) (s : Session η) :
    (s.finish error).sent = s.sent := by
  unfold finish
  split <;> rfl

theorem Goes.finish {p q : Phase} {t s : Session} (h : Goes p t q s) (error : Option ServerError) :
    Goes p t q (s.finish error) :=
  h.trans (Goes.of_sent_eq q (finish_sent error s))

theorem Halted.finish {p : Phase} {t s : Session} (h : Halted p t s) (error : Option ServerError) :
    Concludes p t (s.finish error) := by
  obtain ⟨q, hq, ht⟩ := h
  exact ⟨q, ht.goes.finish error, .ended (finish_over error s) hq⟩

/-- What holds whether the work goes on, comes to its end or fails. -/
theorem after_either {η : Type} {B : Session η → Prop} {work : ServingIn η Bool}
    {s : Session η} (h : Ensures (· = s) work (fun go s' => B (if go then s' else s'.finish none))
      (fun e s' => B (s'.finish (some e)))) : B (s.after work) := by
  have hs := h.run s rfl
  unfold after
  rcases hw : work s with ⟨_ | go, s'⟩
  · rw [hw] at hs
    exact hs
  · rw [hw] at hs
    cases go with
    | false => exact hs
    | true => exact hs

theorem after_of {B : Session → Prop} {work : Serving Bool} {s : Session}
    (h : Ensures (· = s) work (fun go s' => go = true ∧ B s')
      (fun e s' => B (s'.finish (some e)))) : B (s.after work) := by
  refine after_either (h.mono (fun _ h => h) ?_ fun _ _ h => h)
  intro _ s' hs
  obtain ⟨rfl, hs⟩ := hs
  exact hs

theorem encode_ready (status : TransactionStatus) :
    ∃ bytes, (BackendMessage.readyForQuery status).encode = .ok bytes := by
  cases status <;> exact ⟨_, rfl⟩

theorem ready_eq {s : Session} (hw : s.writesLeft = none) :
    ready s = (.ok (), { s with sent := .message (.readyForQuery s.status) :: s.sent }) := by
  obtain ⟨bytes, hb⟩ := encode_ready s.status
  unfold ready
  rw [bind_apply, get_apply]
  dsimp only
  rw [bind_apply, send_eq _ hw, hb]
  exact useWrite_eq hw

section

variable {p q : Phase} {t : Session} {F : ServerError → Session → Prop}

theorem ready_concludes :
    Ensures (Finished p t) ready (fun _ => Concludes p t) F := by
  constructor
  intro s hs
  obtain ⟨q, hg, hq, hn⟩ := hs
  rw [ready_eq hq.writes]
  obtain ⟨bytes, hb⟩ := encode_ready s.status
  exact ⟨_, hg.trans (Goes.message (m := BackendMessage.readyForQuery s.status) trivial hb rfl hn),
    .quiet ⟨⟨hq.stage, hq.writes, hq.sound.sent _⟩, hq.skipping⟩ rfl⟩

/-- A session that answered each statement, or reported the first that failed, can say that it
is ready. -/
theorem runQuery_finished (ht : t.Quiet) (statements : List String) :
    Ensures (Answered .between t) (runQuery statements) (fun _ => Finished .between t)
      (fun _ => Halted .between t) := by
  have quiet {q : Phase} {s : Session} (hs : Trail .between t q s) (hk : s.Sound) : s.Quiet :=
    ⟨⟨hs.stage.trans ht.stage, hs.writes, hk⟩, hs.skipping.trans ht.skipping⟩
  induction statements with
  | nil =>
      refine Ensures.pure fun s hs => ⟨.between, hs.1.goes, quiet hs.1 hs.2, rfl⟩
  | cons sql statements ih =>
      refine Ensures.bind (runStatement_ensures sql [] (.inr ⟨rfl, rfl⟩)) fun result => ?_
      cases result with
      | ok _ => exact ih
      | error report =>
          constructor
          intro s hs
          obtain ⟨⟨q, hr, hq⟩, hs, hi⟩ := hs
          refine (Ensures.of_eq (P := fun s' => Trail .between t q s' ∧ s'.Sound ∧
            s'.status ≠ .inTransaction) ⟨hq, hs, hi⟩
            ((Trail.send (.errorResponse report) trivial hr.open (hr report) ?_).mono (fun _ h => h)
              ?_ fun _ _ h => h)).run s rfl
          · exact fun s out h => ⟨h.1.sent out, h.2⟩
          · intro _ s' hs
            obtain ⟨hq, hs, hi⟩ := hs
            exact ⟨.failed, hq.goes, quiet hq hs, if_neg hi⟩

theorem simpleQuery_finished (ht : t.Quiet) (sql : String) :
    Ensures (· = t) (simpleQuery sql) (fun _ => Finished .between t)
      (fun _ => Halted .between t) := by
  have hrefl : Trail .between t .between t := Trail.refl _ ht.writes
  unfold simpleQuery
  dsimp only
  split
  · refine (Trail.send (p := .between) (t := t) (I := Quiet) .emptyQueryResponse trivial
      Phase.reports_between.open rfl ?_).mono ?_ ?_ fun _ _ h => h
    · exact fun s out h => ⟨⟨h.stage, h.writes, h.sound.sent out⟩, h.skipping⟩
    · intro s hs
      subst hs
      exact ⟨hrefl, ht⟩
    · intro _ s hs
      obtain ⟨hs, hq⟩ := hs
      exact ⟨.between, hs.goes, hq, rfl⟩
  · refine (runQuery_finished ht _).mono ?_ (fun _ _ h => h) fun _ _ h => h
    intro s hs
    subst hs
    exact ⟨hrefl, ht.sound⟩

theorem query_concludes (ht : t.Quiet) (sql : String) :
    Concludes .between t (t.takeIn (.ok (.query sql))) := by
  simp only [takeIn, ht.stage]
  apply after_of
  unfold handle
  refine Ensures.get_bind ?_
  intro s hs
  subst hs
  rw [if_neg (by simp [ht.skipping])]
  refine Ensures.bind (Ensures.mono (simpleQuery_finished ht sql) (fun _ h => h)
    (fun _ _ h => h) fun e _ h => h.finish (some e)) fun _ => ?_
  exact ready_concludes.bind fun _ => Ensures.pure fun _ h => ⟨rfl, h⟩

end

/-- Since `t` the session took bytes in, up to the end of an answer that stood at `p`; it left
none of them, unless it is over. -/
def Served (p : Phase) (t : Session) (r : Session × Bytes) : Prop :=
  Concludes p t r.1 ∧ (r.2 = [] ∨ r.1.Over)

theorem serve_over {s : Session} (h : s.Over) (buffer : Bytes) : s.serve buffer = (s, buffer) := by
  have hn : s.nextMessage buffer = .ok none := by
    obtain ⟨error, he⟩ := h
    simp only [nextMessage, he]
  rw [serve, hn]

theorem serve_nil (s : Session) : s.serve [] = (s, []) := by
  have hn : s.nextMessage [] = .ok none := by
    unfold nextMessage
    split <;> rfl
  rw [serve, hn]

/-- A whole message at the front of a buffer is taken in first. -/
theorem serve_tagged {s : Session} (hs : s.stage ≠ .startup) (ho : ¬s.Over) {m : FrontendMessage}
    {tag : Char} (ht : m.tag? = some tag) {bytes : Bytes} (he : m.encode = .ok bytes)
    (rest : Bytes) :
    ∃ body, m.body = .ok body ∧
      s.serve (bytes ++ rest) =
        (s.takeIn (FrontendMessage.decode ⟨tag.toUInt8, body⟩)).serve rest := by
  obtain ⟨body, hb, hn⟩ := FrontendMessage.next_encode ht he rest
  refine ⟨body, hb, ?_⟩
  have hm : s.nextMessage (bytes ++ rest) =
      .ok (some (FrontendMessage.decode ⟨tag.toUInt8, body⟩, rest)) := by
    cases hg : s.stage with
    | startup => exact absurd hg hs
    | ended error => exact absurd ⟨error, hg⟩ ho
    | password | serving =>
        simp only [nextMessage, hg, hn]
        rfl
  rw [serve, hm]

theorem serve_message {s : Session} (hs : s.stage = .serving) {m : FrontendMessage} {tag : Char}
    (ht : m.tag? = some tag) {bytes : Bytes} (he : m.encode = .ok bytes) (rest : Bytes) :
    ∃ body, m.body = .ok body ∧
      s.serve (bytes ++ rest) =
        (s.takeIn (FrontendMessage.decode ⟨tag.toUInt8, body⟩)).serve rest :=
  serve_tagged (by simp [hs]) (fun ⟨_, ho⟩ => by simp [hs] at ho) ht he rest

theorem serve_query {t : Session} (ht : t.Quiet) {sql : String} {bytes : Bytes}
    (he : (FrontendMessage.query sql).encode = .ok bytes) :
    t.serve bytes = (t.takeIn (.ok (.query sql)), []) := by
  obtain ⟨body, hb, hs⟩ := serve_message ht.stage rfl he []
  rw [List.append_nil] at hs
  rw [hs, FrontendMessage.decode_query hb, serve_nil]

theorem query_served {t : Session} (ht : t.Quiet) {sql : String} {bytes : Bytes}
    (he : (FrontendMessage.query sql).encode = .ok bytes) :
    Served .between t (t.serve bytes) := by
  rw [serve_query ht he]
  exact ⟨query_concludes ht sql, .inl rfl⟩

end Session

end SqlWire
