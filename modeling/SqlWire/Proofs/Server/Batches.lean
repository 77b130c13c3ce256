import SqlWire.Proofs.Server.Answers

/-!
# Answers to bound statements

A statement with parameters goes out as five messages. Each of them leaves the session between
two of them in a way that `Session.Amid` describes, and the last one brings the answer to its
end, whether or not one of them failed on the way.
-/

namespace SqlWire

namespace Session

/-- Where a session stands among the messages that prepare, bind and run a statement: it goes
on with them, it passes over them because of an error, or it is over. -/
def Amid (I : Phase → Session → Prop) (t s : Session) : Prop :=
  ∃ q, Goes .opening t q s ∧
    (s.Quiet ∧ I q s ∨
      s.Attending ∧ s.skipping = true ∧ q = .failed ∧ s.status ≠ .inTransaction ∨
      s.Over ∧ q.Open)

section

variable {t : Session} {I J : Phase → Session → Prop}

theorem Amid.stage {s : Session} (h : Amid I t s) : s.stage = .serving ∨ s.Over := by
  obtain ⟨q, -, ⟨hs, -⟩ | ⟨hs, -⟩ | ⟨hs, -⟩⟩ := h
  · exact .inl hs.stage
  · exact .inl hs.stage
  · exact .inr hs

theorem Amid.halted {q : Phase} {u s : Session} (hg : Goes .opening t q u) (h : Halted q u s)
    (error : Option ServerError) : Amid J t (s.finish error) := by
  obtain ⟨r, hr, hu⟩ := h
  exact ⟨r, (hg.trans hu.goes).finish error, .inr (.inr ⟨finish_over error s, hr⟩)⟩

/-- A message among those that run a statement is passed over or does its work. -/
theorem Amid.takeIn {s : Session} (h : Amid I t s) (hs : s.stage = .serving) {m : FrontendMessage}
    (hsync : m ≠ .sync) (hterminate : m ≠ .terminate)
    (hm : ∀ q, Goes .opening t q s → s.Quiet → I q s → Ensures (· = s) (handle m)
      (fun go s' => go = true ∧ Amid J t s') (fun e s' => Amid J t (s'.finish (some e)))) :
    Amid J t (s.takeIn (.ok m)) := by
  obtain ⟨q, hg, ⟨hq, hi⟩ | hk | ⟨⟨error, ho⟩, -⟩⟩ := h
  · simp only [Session.takeIn, hs]
    exact after_of (hm q hg hq hi)
  · simp only [Session.takeIn, hs]
    apply after_of
    unfold handle
    refine Ensures.get_bind ?_
    intro s hs
    subst hs
    rw [if_pos ⟨hk.2.1, hsync, hterminate⟩]
    refine Ensures.pure ?_
    intro s hs
    subst hs
    exact ⟨rfl, q, hg, .inr (.inl hk)⟩
  · rw [ho] at hs
    cases hs

theorem Attending.fail {s : Session} (h : s.Attending) :
    Attending { s.abort with skipping := true } :=
  ⟨h.stage, h.writes, h.sound.abort.inside, h.sound.abort.begun⟩

/-- An error makes the session pass over the messages that follow. -/
theorem extendedError_amid {q : Phase} {s : Session} (hg : Goes .opening t q s) (hs : s.Attending)
    (hq : q.Reports) (report : Diagnostic) :
    Ensures (· = s) (extendedError report) (fun _ => Amid J t)
      (fun e s' => Amid J t (s'.finish (some e))) := by
  constructor
  intro s hs
  subst hs
  have hf := hs.fail
  have hg : Goes .opening t q { s.abort with skipping := true } := hg.still rfl
  have hm : (modify fun s => { s.abort with skipping := true } : Serving Unit) s =
    (.ok (), { s.abort with skipping := true }) := rfl
  unfold extendedError
  rw [bind_apply, hm]
  dsimp only
  rw [send_eq _ hf.writes]
  cases he : (BackendMessage.errorResponse report).encode with
  | error e => exact Amid.halted hg ⟨q, hq.open, Trail.refl q hf.writes⟩ _
  | ok bytes =>
      refine ⟨.failed, hg.trans (Goes.message (m := .errorResponse report) trivial he rfl
        (hq report)), .inr (.inl ⟨?_, rfl, rfl, status_abort s⟩)⟩
      exact ⟨hf.stage, hf.writes, hf.sound.inside, hf.sound.begun⟩

theorem send_amid {q r : Phase} {s : Session} (hg : Goes .opening t q s) (hs : s.Quiet)
    (m : BackendMessage) (hp : m.Plain) (hq : q.Reports) (hn : q.next m.received = some r)
    (hJ : ∀ out, J r { s with sent := out }) :
    Ensures (· = s) (send m) (fun _ => Amid J t) (fun e s' => Amid J t (s'.finish (some e))) := by
  constructor
  intro s hs
  subst hs
  rw [send_eq _ hs.writes]
  cases he : m.encode with
  | error e => exact Amid.halted hg ⟨q, hq.open, Trail.refl q hs.writes⟩ _
  | ok bytes =>
      refine ⟨r, hg.trans (Goes.message hp he rfl hn), .inl ⟨⟨⟨hs.stage, hs.writes, ?_⟩,
        hs.skipping⟩, hJ _⟩⟩
      exact hs.sound.sent _

def Unbegun (q : Phase) (_ : Session) : Prop :=
  q = .opening

def Ran (q : Phase) (_ : Session) : Prop :=
  q = .between

/-- The statement that a description was asked for is not run silently. -/
def Described (q : Phase) (s : Session) : Prop :=
  q = .opening ∧ ∀ p, s.portal = some p → p.described = true

theorem Quiet.holding {s : Session} (h : s.Quiet) (prepared : Option PreparedStatement)
    (portal : Option Portal) : Quiet { s with prepared, portal } :=
  ⟨⟨h.stage, h.writes, h.sound.inside, h.sound.begun⟩, h.skipping⟩

theorem handle_going {Q : Bool → Session → Prop} {F : ServerError → Session → Prop} {s : Session}
    (hs : s.Quiet) {m : FrontendMessage} {f : Session → Serving Bool}
    (hf : handle m = get >>= fun s =>
      if s.skipping ∧ m ≠ .sync ∧ m ≠ .terminate then pure true else f s)
    (h : Ensures (· = s) (f s) Q F) : Ensures (· = s) (handle m) Q F := by
  rw [hf]
  refine Ensures.get_bind ?_
  intro s hs
  subst hs
  rw [if_neg (by simp [hs.skipping])]
  exact h

theorem goes_on {B P : Session → Prop} {F : ServerError → Session → Prop} (work : Serving Unit)
    (h : Ensures P work (fun _ => B) F) :
    Ensures P (work >>= fun _ => pure true) (fun go s => go = true ∧ B s) F :=
  h.bind fun _ => Ensures.pure fun _ hs => ⟨rfl, hs⟩

theorem parse_amid {s : Session} (h : Amid Unbegun t s)
    (hs : s.stage = .serving) (name sql : String) (types : List TypeOid) :
    Amid Unbegun t (s.takeIn (.ok (.parse name sql types))) := by
  refine h.takeIn hs (by simp) (by simp) ?_
  intro q hg hq h
  subst h
  have hg' : Goes .opening t .opening { s with prepared := some ⟨sql, types⟩ } := hg.still rfl
  refine handle_going hq rfl (Ensures.modify_bind (goes_on _ ?_))
  exact send_amid hg' (hq.holding (some ⟨sql, types⟩) s.portal) .parseComplete trivial
    Phase.reports_opening rfl fun _ => rfl

theorem bind_amid {s : Session} (h : Amid Unbegun t s)
    (hs : s.stage = .serving) (portal statement : String) (params : List (Option Bytes)) :
    Amid Unbegun t (s.takeIn (.ok (.bind portal statement params))) := by
  refine h.takeIn hs (by simp) (by simp) ?_
  intro q hg hq h
  subst h
  refine handle_going hq rfl (goes_on (bind params) ?_)
  unfold Session.bind
  refine Ensures.get_bind ?_
  intro s hs
  subst hs
  cases s.prepared with
  | none => exact extendedError_amid hg hq.toAttending Phase.reports_opening _
  | some p =>
      dsimp only
      cases bindParams p.paramTypes params with
      | error e => exact extendedError_amid hg hq.toAttending Phase.reports_opening _
      | ok values =>
          have hg' : Goes .opening t .opening
              { s with portal := some ⟨p.sql, values, false⟩ } := hg.still rfl
          refine Ensures.modify_bind ?_
          exact send_amid hg' (hq.holding s.prepared (some ⟨p.sql, values, false⟩)) .bindComplete
            trivial Phase.reports_opening rfl fun _ => rfl

theorem describe_amid {s : Session} (h : Amid Unbegun t s)
    (hs : s.stage = .serving) (name : String) :
    Amid Described t (s.takeIn (.ok (.describe .portal name))) := by
  refine h.takeIn hs (by simp) (by simp) ?_
  intro q hg hq h
  subst h
  refine handle_going hq rfl (goes_on (describe .portal) ?_)
  unfold describe
  refine Ensures.get_bind ?_
  intro s hs
  subst hs
  cases s.portal with
  | none => exact extendedError_amid hg hq.toAttending Phase.reports_opening _
  | some p =>
      refine Ensures.modify ?_
      intro s hs
      subst hs
      refine ⟨.opening, hg.trans (Goes.of_sent_eq _ rfl), .inl
        ⟨hq.holding s.prepared (some { p with described := true }), rfl, ?_⟩⟩
      intro _ h
      cases h
      rfl

theorem execute_amid {s : Session} (h : Amid Described t s) (hs : s.stage = .serving)
    (name : String) (rows : Int32) :
    Amid Ran t (s.takeIn (.ok (.execute name rows))) := by
  refine h.takeIn hs (by simp) (by simp) ?_
  intro q hg hq h
  obtain ⟨rfl, hd⟩ := h
  refine handle_going hq rfl (goes_on executePortal ?_)
  unfold executePortal
  refine Ensures.get_bind ?_
  intro s hs
  subst hs
  cases hp : s.portal with
  | none => exact extendedError_amid hg hq.toAttending Phase.reports_opening _
  | some p =>
      refine Ensures.modify_bind ?_
      have hq' := hq.holding s.prepared none
      have hg' : Goes .opening t .opening { s with portal := none } := hg.still rfl
      split
      · exact send_amid hg' hq' .emptyQueryResponse trivial Phase.reports_opening rfl fun _ => rfl
      · split
        · exact extendedError_amid hg' hq'.toAttending Phase.reports_opening _
        · rw [hd p hp]
          refine Ensures.bind (Ensures.mono (runStatement_ensures (p := .opening)
            (t := { s with portal := none }) _ p.params (.inl ⟨rfl, rfl⟩)) ?_ (fun _ _ h => h)
              fun e s' h => Amid.halted hg' h (some e)) fun result => ?_
          · intro _ h
            subst h
            exact ⟨Trail.refl _ hq'.writes, hq'.sound⟩
          · have attending {r : Phase} {s' : Session}
                (hr : Trail .opening { s with portal := none } r s') (hs : s'.Sound) :
                s'.Attending := ⟨hr.stage.trans hq'.stage, hr.writes, hs⟩
            cases result with
            | ok _ =>
                refine Ensures.pure ?_
                intro s' hs
                obtain ⟨hr, hs⟩ := hs
                exact ⟨.between, hg'.trans hr.goes, .inl
                  ⟨⟨attending hr hs, hr.skipping.trans hq'.skipping⟩, rfl⟩⟩
            | error report =>
                refine Ensures.of_each ?_
                intro s' hs
                obtain ⟨⟨r, hreports, hr⟩, hs, -⟩ := hs
                exact extendedError_amid (hg'.trans hr.goes) (attending hr hs) hreports report

/-- With the request for synchronisation the answer comes to its end. -/
theorem sync_concludes {s : Session} (h : Amid Ran t s)
    (hs : s.stage = .serving) : Concludes .opening t (s.takeIn (.ok .sync)) := by
  simp only [Session.takeIn, hs]
  apply after_of
  unfold handle
  refine Ensures.get_bind ?_
  intro s hs
  subst hs
  rw [if_neg (by simp)]
  refine Ensures.modify_bind ?_
  refine goes_on ready (Ensures.of_eq ?_ (ready_concludes (p := .opening) (t := t)))
  have hsent (q : Phase) : Goes q s q { s with skipping := false, portal := none } :=
    Goes.of_sent_eq q rfl
  have hquiet (hq : s.Attending) : Quiet { s with skipping := false, portal := none } :=
    ⟨⟨hq.stage, hq.writes, hq.sound.inside, hq.sound.begun⟩, rfl⟩
  obtain ⟨q, hg, ⟨hq, rfl⟩ | ⟨hq, -, rfl, hi⟩ | ⟨⟨error, ho⟩, -⟩⟩ := h
  · exact ⟨.between, hg.trans (hsent _), hquiet hq.toAttending, rfl⟩
  · exact ⟨.failed, hg.trans (hsent _), hquiet hq, if_neg hi⟩
  · rw [ho] at hs
    cases hs

theorem Attending.not_over {s : Session} (h : s.Attending) : ¬s.Over := by
  intro h
  obtain ⟨error, ho⟩ := h
  rw [h.stage] at ho
  cases ho

theorem Amid.over_served {s : Session} (h : Amid I t s) (ho : s.Over) (buffer : Bytes) :
    Served .opening t (s.serve buffer) := by
  rw [serve_over ho]
  obtain ⟨q, hg, ⟨hs, -⟩ | ⟨hs, -⟩ | ⟨-, hq⟩⟩ := h
  · exact absurd ho hs.not_over
  · exact absurd ho hs.not_over
  · exact ⟨⟨q, hg, .ended ho hq⟩, .inr ho⟩

/-- A message at the front of what is left is taken in, unless the session is over. -/
theorem Amid.serve {s : Session} (h : Amid I t s) {m : FrontendMessage} {tag : Char}
    (ht : m.tag? = some tag) {bytes rest : Bytes} (he : m.encode = .ok bytes)
    (hm : ∀ body, m.body = .ok body → s.stage = .serving →
      Amid J t (s.takeIn (FrontendMessage.decode ⟨tag.toUInt8, body⟩)))
    (hrest : ∀ s', Amid J t s' → Served .opening t (s'.serve rest)) :
    Served .opening t (s.serve (bytes ++ rest)) := by
  rcases h.stage with hs | ho
  · obtain ⟨body, hb, hserve⟩ := serve_message hs ht he rest
    rw [hserve]
    exact hrest _ (hm body hb hs)
  · exact h.over_served ho _

/-- A binding that cannot be read ends the session. -/
theorem bind_taken {s : Session} (h : Amid Unbegun t s) (hs : s.stage = .serving)
    (body : Bytes) : Amid Unbegun t
      (s.takeIn (FrontendMessage.decode ⟨'B'.toUInt8, body⟩)) := by
  cases hd : FrontendMessage.decode ⟨'B'.toUInt8, body⟩ with
  | ok m =>
      obtain ⟨portal, statement, params, rfl⟩ := FrontendMessage.decode_bind hd
      exact bind_amid h hs portal statement params
  | error e =>
      obtain ⟨q, hg, ⟨hq, rfl⟩ | ⟨hq, -, rfl, hi⟩ | ⟨ho, hq⟩⟩ := h
      · exact Amid.halted hg ⟨.opening, trivial, Trail.refl _ hq.writes⟩ _
      · exact ⟨.failed, hg.finish _, .inr (.inr ⟨finish_over _ s, trivial⟩)⟩
      · exact ⟨q, hg.finish _, .inr (.inr ⟨finish_over _ s, hq⟩)⟩

/-- The messages that prepare, bind, describe and run a statement are answered in full. -/
theorem batch_served (ht : t.Quiet) {sql : String} {types : List TypeOid}
    {params : List (Option Bytes)} {bytes : Bytes}
    (he : FrontendMessage.encodeAll [.parse "" sql types, .bind "" "" params,
      .describe .portal "", .execute "" 0, .sync] = .ok bytes) :
    Served .opening t (t.serve bytes) := by
  obtain ⟨parse, _, hparse, h1, rfl⟩ := FrontendMessage.encodeAll_cons he
  obtain ⟨bind, _, hbind, h2, rfl⟩ := FrontendMessage.encodeAll_cons h1
  obtain ⟨describe, _, hdescribe, h3, rfl⟩ := FrontendMessage.encodeAll_cons h2
  obtain ⟨execute, _, hexecute, h4, rfl⟩ := FrontendMessage.encodeAll_cons h3
  obtain ⟨sync, _, hsync, h5, rfl⟩ := FrontendMessage.encodeAll_cons h4
  rw [FrontendMessage.encodeAll_nil] at h5
  cases h5
  have start : Amid Unbegun t t :=
    ⟨.opening, Goes.of_sent_eq _ rfl, .inl ⟨ht, rfl⟩⟩
  refine start.serve (J := Unbegun) rfl hparse ?_ fun s hs => ?_
  · intro body hb h
    rw [FrontendMessage.decode_parse hb]
    exact parse_amid start h _ _ _
  refine hs.serve (J := Unbegun) rfl hbind (fun body _ h => bind_taken hs h body) fun s hs => ?_
  refine hs.serve (J := Described) rfl hdescribe ?_ fun s hs => ?_
  · intro body hb h
    rw [FrontendMessage.decode_describe hb]
    exact describe_amid hs h _
  refine hs.serve (J := Ran) rfl hexecute ?_ fun s hs => ?_
  · intro body hb h
    rw [FrontendMessage.decode_execute hb]
    exact execute_amid hs h _ _
  rcases hs.stage with h | ho
  · obtain ⟨body, hb, hserve⟩ := serve_message h rfl hsync []
    cases hb
    rw [hserve, FrontendMessage.decode_sync, serve_nil]
    exact ⟨sync_concludes hs h, .inl rfl⟩
  · exact hs.over_served ho _

end

end Session

end SqlWire
