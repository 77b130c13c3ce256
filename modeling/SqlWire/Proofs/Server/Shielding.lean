import SqlWire.Proofs.Server.Admission
import SqlWire.Proofs.Server.Batches
import SqlWire.Proofs.Server.Placeholders
import SqlWire.Proofs.Server.Preparations

/-!
# Requests that prepare nothing outside a transaction

What a client sends at once is one message, or the five messages that prepare, bind and run a
statement. The latter run nothing but that statement, so none of them prepares anything outside a
transaction if the session is inside one or the statement begins or ends one.
-/

namespace SqlWire

namespace Session

section

variable {free : String → Prop} {base s : Session} {inside : Bool} {sql : String}
  {I J : Session → Prop}

/-- A message that was sent alone is taken in, unless the session is over. -/
theorem Shielded.serve_one (h : Shielded free base s) {m : FrontendMessage} {tag : Char}
    (ht : m.tag? = some tag) {bytes : Bytes} (he : m.encode = .ok bytes)
    (hm : ∀ body, m.body = .ok body →
      Shielded free base (s.takeIn (FrontendMessage.decode ⟨tag.toUInt8, body⟩))) :
    Shielded free base (s.serve bytes).1 ∧ ((s.serve bytes).2 = [] ∨ (s.serve bytes).1.Over) := by
  by_cases ho : s.Over
  · rw [serve_over ho]
    exact ⟨h, .inr ho⟩
  · obtain ⟨body, hb, hserve⟩ := serve_tagged h.met ho ht he []
    rw [List.append_nil] at hserve
    rw [hserve, serve_nil]
    exact ⟨hm body hb, .inl rfl⟩

theorem Shielded.serve_query (h : Shielded free base s) {bytes : Bytes}
    (he : (FrontendMessage.query sql).encode = .ok bytes)
    (hf : ∀ text ∈ Sql.exposed s.inTransaction (Sql.statements sql), free text) :
    Shielded free base (s.serve bytes).1 ∧ ((s.serve bytes).2 = [] ∨ (s.serve bytes).1.Over) := by
  refine h.serve_one rfl he fun body hb => ?_
  rw [FrontendMessage.decode_query hb]
  refine h.takeIn _ (fun text hr => ?_) (by simp)
  cases hr
  exact hf

theorem Shielded.serve_password (h : Shielded free base s) {text : String} {bytes : Bytes}
    (he : (FrontendMessage.password text).encode = .ok bytes) :
    Shielded free base (s.serve bytes).1 ∧ ((s.serve bytes).2 = [] ∨ (s.serve bytes).1.Over) := by
  refine h.serve_one rfl he fun body hb => ?_
  rw [FrontendMessage.decode_password hb]
  exact h.takeIn _ (by simp) (by simp)

theorem Shielded.serve_terminate (h : Shielded free base s) {bytes : Bytes}
    (he : FrontendMessage.terminate.encode = .ok bytes) :
    Shielded free base (s.serve bytes).1 ∧ ((s.serve bytes).2 = [] ∨ (s.serve bytes).1.Over) := by
  refine h.serve_one rfl he fun body hb => ?_
  cases hb
  exact h.takeIn (.ok .terminate) (by simp) (by simp)

theorem Closing.met {p : Phase} (h : Closing p s) : s.stage ≠ .startup := by
  cases h with
  | quiet h => simp [h.stage]
  | ended h =>
      obtain ⟨error, ho⟩ := h
      simp [ho]
  | asked hs => simp [hs]

/-- The message in which a client names itself has nothing prepared. -/
theorem startup_shielded (ha : s.Alone) (hs : s.stage = .startup) (h : Covered free base s)
    {params : List (String × String)} {bytes : Bytes}
    (he : (FrontendMessage.startup Protocol.version3 params).encode = .ok bytes) :
    Shielded free base (s.serve bytes).1 ∧ ((s.serve bytes).2 = [] ∨ (s.serve bytes).1.Over) := by
  obtain ⟨⟨q, -, hq⟩, hleft⟩ := startup_served ha hs he
  refine ⟨⟨?_, hq.met⟩, hleft⟩
  obtain ⟨read, hread, hserve⟩ := serve_startup hs he
  have named {m : FrontendMessage} (hr : read = .ok m) : ∃ params, m = .startup _ params :=
    hread m hr
  rw [hserve]
  refine covered_talks.takeIn (Q := Covered free base) (fun h => h) (fun error h => h.finish error)
    h read (fun sql hr => ?_) fun portal rows hr => ?_
  · obtain ⟨params, hm⟩ := named hr
    cases hm
  · obtain ⟨params, hm⟩ := named hr
    cases hm

/-! ## Bound statements -/

structure Goings (free : String → Prop) (base : Session) (inside : Bool) (I : Session → Prop)
    (s : Session) : Prop where
  shielded : Shielded free base s
  stage : s.stage = .serving
  inside : s.inTransaction = inside
  holds : I s

def PassesOr (I : Session → Prop) (s : Session) : Prop :=
  s.skipping = true ∨ I s

def Midway (free : String → Prop) (base : Session) (inside : Bool) (I : Session → Prop)
    (s : Session) : Prop :=
  Shielded free base s ∧ (s.Over ∨ Goings free base inside (PassesOr I) s)

def Prepares (sql : String) (s : Session) : Prop :=
  ∀ p, s.prepared = some p → p.sql = sql

def Binds (sql : String) (s : Session) : Prop :=
  ∀ p, s.portal = some p → p.sql = sql

theorem Goings.midway (h : Goings free base inside (PassesOr I) s) : Midway free base inside I s :=
  ⟨h.shielded, .inr h⟩

theorem Shielded.over (h : Shielded free base s) (error : Option ServerError) :
    Midway free base inside I (s.finish error) :=
  ⟨h.finish error, .inl (finish_over error s)⟩

theorem send_goings (m : BackendMessage)
    (hw : ∀ s left, I s → I { s with writesLeft := left })
    (hs : ∀ s, I s → I { s with sent := .message m :: s.sent }) :
    Ensures (Goings free base inside I) (send m) (fun _ => Goings free base inside I)
      (fun _ => Shielded free base) := by
  refine (send_acts (P := Goings free base inside I) m (fun s left h => ?_) fun s h => ?_).mono
    (fun _ h => h) (fun _ _ h => h) fun _ _ h => h.shielded
  · exact ⟨shielded_talks.wrote left h.shielded, h.stage, h.inside, hw s left h.holds⟩
  · exact ⟨shielded_talks.said _ h.shielded, h.stage, h.inside, hs s h.holds⟩

/-- An error makes the session pass over the messages that follow. -/
theorem extendedError_midway (d : Diagnostic) :
    Ensures (Goings free base inside I) (extendedError d) (fun _ => Midway free base inside J)
      (fun _ => Shielded free base) := by
  refine Ensures.bind (Q := fun _ => Goings free base inside (·.skipping = true))
    (Ensures.modify fun s h => ?_) fun _ => ?_
  · exact ⟨shielded_talks.held _ _ true (shielded_talks.aborted h.shielded), h.stage, h.inside, rfl⟩
  · refine (send_goings _ (fun _ _ h => h) fun _ h => h).mono (fun _ h => h) ?_ fun _ _ h => h
    exact fun _ _ h => Goings.midway ⟨h.shielded, h.stage, h.inside, .inl h.holds⟩

/-- A message among those that run a statement is passed over or does its work. -/
theorem Midway.takes {Q : Session → Prop} (h : Midway free base inside I s)
    (hs : s.stage = .serving) (passed : ∀ {s}, Goings free base inside (·.skipping = true) s → Q s)
    (ended : ∀ {s} error, Shielded free base s → Q (s.finish error))
    {m : FrontendMessage} {work : Serving Bool} (hm : m ≠ .sync ∧ m ≠ .terminate)
    (hh : handle m = get >>= fun s =>
      if s.skipping ∧ m ≠ .sync ∧ m ≠ .terminate then pure true else work)
    (hwork : Ensures (Goings free base inside I) work (fun go s' => go = true ∧ Q s')
      (fun _ => Shielded free base)) : Q (s.takeIn (.ok m)) := by
  obtain ⟨-, ⟨error, ho⟩ | h⟩ := h
  · rw [hs] at ho
    cases ho
  have done : Ensures (· = s) (handle m) (fun go s' => go = true ∧ Q s')
      (fun _ => Shielded free base) := by
    rw [hh]
    refine Ensures.get_bind ?_
    intro s hs
    subst hs
    by_cases hk : s.skipping = true
    · rw [if_pos ⟨hk, hm.1, hm.2⟩]
      have hq : Q s := passed ⟨h.shielded, h.stage, h.inside, hk⟩
      exact Ensures.of_eq hq (Ensures.pure fun _ h => ⟨rfl, h⟩)
    · rw [if_neg fun h => hk h.1]
      exact Ensures.of_eq ⟨h.shielded, h.stage, h.inside, h.holds.resolve_left hk⟩ hwork
  simp only [Session.takeIn, hs]
  exact after_of (done.mono (fun _ h => h) (fun _ _ h => h) fun e _ h => ended (some e) h)

theorem Midway.takeIn (h : Midway free base inside I s) (hs : s.stage = .serving)
    {m : FrontendMessage} {work : Serving Bool} (hm : m ≠ .sync ∧ m ≠ .terminate)
    (hh : handle m = get >>= fun s =>
      if s.skipping ∧ m ≠ .sync ∧ m ≠ .terminate then pure true else work)
    (hwork : Ensures (Goings free base inside I) work
      (fun go s' => go = true ∧ Midway free base inside J s') (fun _ => Shielded free base)) :
    Midway free base inside J (s.takeIn (.ok m)) :=
  h.takes hs (fun h => Goings.midway ⟨h.shielded, h.stage, h.inside, .inl h.holds⟩)
    (fun error h => h.over error) hm hh hwork

/-- What a message says last leaves the session with what it holds. -/
theorem said_midway (m : BackendMessage) (hw : ∀ s left, I s → I { s with writesLeft := left })
    (hs : ∀ s, I s → I { s with sent := .message m :: s.sent }) :
    Ensures (Goings free base inside I) (send m) (fun _ => Midway free base inside I)
      (fun _ => Shielded free base) := by
  refine (send_goings m hw hs).mono (fun _ h => h) (fun _ s h => ?_) fun _ _ h => h
  exact Goings.midway ⟨h.shielded, h.stage, h.inside, .inr h.holds⟩

theorem parse_midway (h : Midway free base inside (fun _ => True) s) (hs : s.stage = .serving)
    (name : String) (types : List TypeOid) :
    Midway free base inside (Prepares sql) (s.takeIn (.ok (.parse name sql types))) := by
  refine h.takeIn hs ⟨by simp, by simp⟩ rfl ?_
  refine Ensures.bind (Q := fun _ => Goings free base inside (Prepares sql))
    (Ensures.modify fun s h => ?_)
    fun _ => goes_on _ (said_midway _ (fun _ _ h => h) fun _ h => h)
  refine ⟨shielded_talks.held _ s.portal s.skipping h.shielded, h.stage, h.inside, ?_⟩
  intro p hp
  cases hp
  rfl

theorem bind_midway (h : Midway free base inside (Prepares sql) s) (hs : s.stage = .serving)
    (portal statement : String) (params : List (Option Bytes)) :
    Midway free base inside (Binds sql) (s.takeIn (.ok (.bind portal statement params))) := by
  refine h.takeIn hs ⟨by simp, by simp⟩ rfl (goes_on (bind params) ?_)
  refine Ensures.get_bind fun s h => ?_
  cases hp : s.prepared with
  | none => exact Ensures.of_eq h (extendedError_midway _)
  | some p =>
      dsimp only
      cases bindParams p.paramTypes params with
      | error e => exact Ensures.of_eq h (extendedError_midway _)
      | ok values =>
          have bound : Goings free base inside (Binds sql)
              { s with portal := some ⟨p.sql, values, false⟩ } := by
            refine ⟨shielded_talks.held s.prepared _ s.skipping h.shielded, h.stage, h.inside, ?_⟩
            intro q hq
            cases hq
            exact h.holds p hp
          exact Ensures.modify_bind (Ensures.of_eq bound
            (said_midway _ (fun _ _ h => h) fun _ h => h))

theorem describe_midway (h : Midway free base inside (Binds sql) s) (hs : s.stage = .serving)
    (name : String) :
    Midway free base inside (Binds sql) (s.takeIn (.ok (.describe .portal name))) := by
  refine h.takeIn hs ⟨by simp, by simp⟩ rfl (goes_on (describe .portal) ?_)
  refine Ensures.get_bind fun s h => ?_
  cases hp : s.portal with
  | none => exact Ensures.of_eq h (extendedError_midway _)
  | some p =>
      refine Ensures.modify ?_
      intro s hs
      subst hs
      refine Goings.midway ⟨shielded_talks.held s.prepared _ s.skipping h.shielded, h.stage,
        h.inside, .inr fun q hq => ?_⟩
      cases hq
      exact h.holds p hp

/-- A bound statement is run inside the transaction, or it begins or ends one. -/
theorem executePortal_shielded
    (hf : (SqlKind.ofText sql).isTransactionControl = true ∨ inside = true) :
    Ensures (Goings free base inside (Binds sql)) executePortal (fun _ => Shielded free base)
      (fun _ => Shielded free base) := by
  unfold executePortal
  refine Ensures.get_bind fun s h => ?_
  cases hp : s.portal with
  | none => exact Ensures.of_eq h.shielded (shielded_talks.report _)
  | some p =>
      have used : Shielded free base { s with portal := none } :=
        shielded_talks.held s.prepared none s.skipping h.shielded
      have htext : p.sql = sql := h.holds p hp
      refine Ensures.modify_bind ?_
      split
      · exact Ensures.of_eq used (shielded_talks.say _)
      · split
        · exact Ensures.of_eq used (shielded_talks.report _)
        · have hc : (SqlKind.ofText (Sql.numberedPlaceholders p.sql)).isTransactionControl = true ∨
              free (Sql.numberedPlaceholders p.sql) ∨ inside = true :=
            hf.elim (fun hc => .inl (SqlKind.numbered_control (htext ▸ hc)))
              fun hi => .inr (.inr hi)
          have run := runStatement_acts (t := { s with portal := none }) hc p.params
            (if p.described then Describing.portal else .silent)
          refine Ensures.bind (SqlWire.Ensures.mono run ?_ (fun _ _ h => h)
            fun _ _ h => used.acts h) fun result => ?_
          · intro s' hs
            subst hs
            exact ⟨.refl, h.inside⟩
          · cases result with
            | ok u => exact Ensures.pure fun _ h => used.acts h.1
            | error report =>
                exact (shielded_talks.report _).mono (fun _ h => used.acts h.1) (fun _ _ h => h)
                  fun _ _ h => h

theorem execute_midway (h : Midway free base inside (Binds sql) s) (hs : s.stage = .serving)
    (hf : (SqlKind.ofText sql).isTransactionControl = true ∨ inside = true) (name : String)
    (rows : Int32) : Shielded free base (s.takeIn (.ok (.execute name rows))) :=
  h.takes (Q := Shielded free base) hs (fun h => h.shielded) (fun error h => h.finish error)
    ⟨by simp, by simp⟩ rfl (goes_on executePortal (executePortal_shielded hf))

/-- A message at the front of what is left is taken in, unless the session is over. -/
theorem Midway.serve (h : Midway free base inside I s) {m : FrontendMessage} {tag : Char}
    (ht : m.tag? = some tag) {bytes rest : Bytes} (he : m.encode = .ok bytes) {Q : Session → Prop}
    (hm : ∀ body, m.body = .ok body → s.stage = .serving →
      Q (s.takeIn (FrontendMessage.decode ⟨tag.toUInt8, body⟩)))
    (hrest : ∀ s', Q s' → Shielded free base (s'.serve rest).1) :
    Shielded free base (s.serve (bytes ++ rest)).1 := by
  obtain ⟨hshielded, ho | h⟩ := h
  · rw [serve_over ho]
    exact hshielded
  · obtain ⟨body, hb, hserve⟩ := serve_message h.stage ht he rest
    rw [hserve]
    exact hrest _ (hm body hb h.stage)

/-- The messages that prepare, bind and run a statement prepare it inside a transaction, or it
begins or ends one. -/
theorem batch_shielded (hs : Shielded free base s) (hq : s.Quiet)
    (hf : (SqlKind.ofText sql).isTransactionControl = true ∨ s.inTransaction = true)
    {types : List TypeOid} {params : List (Option Bytes)} {bytes : Bytes}
    (he : FrontendMessage.encodeAll [.parse "" sql types, .bind "" "" params,
      .describe .portal "", .execute "" 0, .sync] = .ok bytes) :
    Shielded free base (s.serve bytes).1 := by
  obtain ⟨parse, _, hparse, h1, rfl⟩ := FrontendMessage.encodeAll_cons he
  obtain ⟨bind, _, hbind, h2, rfl⟩ := FrontendMessage.encodeAll_cons h1
  obtain ⟨describe, _, hdescribe, h3, rfl⟩ := FrontendMessage.encodeAll_cons h2
  obtain ⟨execute, sync, hexecute, h4, rfl⟩ := FrontendMessage.encodeAll_cons h3
  rw [FrontendMessage.encodeAll_singleton] at h4
  have start : Midway free base s.inTransaction (fun _ => True) s :=
    Goings.midway ⟨hs, hq.stage, rfl, .inr trivial⟩
  refine start.serve (Q := Midway free base s.inTransaction (Prepares sql)) rfl hparse ?_
    fun s₁ h₁ => ?_
  · intro body hb h
    rw [FrontendMessage.decode_parse hb]
    exact parse_midway start h _ _
  refine h₁.serve (Q := Midway free base s.inTransaction (Binds sql)) rfl hbind ?_ fun s₂ h₂ => ?_
  · intro body _ h
    cases hd : FrontendMessage.decode ⟨'B'.toUInt8, body⟩ with
    | ok m =>
        obtain ⟨portal, statement, params, rfl⟩ := FrontendMessage.decode_bind hd
        exact bind_midway h₁ h portal statement params
    | error e => exact h₁.1.over _
  refine h₂.serve (Q := Midway free base s.inTransaction (Binds sql)) rfl hdescribe ?_
    fun s₃ h₃ => ?_
  · intro body hb h
    rw [FrontendMessage.decode_describe hb]
    exact describe_midway h₂ h _
  refine h₃.serve (Q := Shielded free base) rfl hexecute ?_ fun s₄ h₄ => ?_
  · intro body hb h
    rw [FrontendMessage.decode_execute hb]
    exact execute_midway h₃ h hf _ _
  refine (h₄.serve_one (m := .sync) rfl h4 fun body hb => ?_).1
  cases hb
  exact h₄.takeIn (.ok .sync) (by simp) (by simp)

end

end Session

end SqlWire
