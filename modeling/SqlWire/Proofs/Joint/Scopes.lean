import SqlWire.Proofs.Joint.Commit

/-!
# What is left of a transaction when its scope is

A scope that ends with a rollback, or that is dropped, leaves no transaction behind; nor does one
that ends with a commit, whether it succeeds or the transaction had failed before. There is one
way to leave a transaction behind: the engine refuses to commit. Then the session is outside any
transaction, the scope is gone, and the connection still takes a transaction to have failed.
-/

namespace SqlWire

open Session

namespace Connection

section

variable {σ : Type}

/-- The engine refused to commit the transaction, which the connection takes to have failed. -/
structure CommitRefused [Joined σ] (s : Session) (e : ClientError) (c : Connection σ) : Prop where
  failed : c.transaction = .failed
  reported : ∃ report, e = .ofReport report
  refused : ∃ message rest, s.EndsWith (("COMMIT", .error message) :: rest) c.peer

def Concludes [Joined σ] (s : Session) (e : ClientError) (c : Connection σ) : Prop :=
  c.isUsable = true → c.transaction = .idle ∨ CommitRefused s e c

variable [Joined σ] {terms : Terms σ} {s : Session} {c : Connection σ}

theorem Lost.concludes {e e' : ClientError} (h : Lost terms e c) : Concludes s e' c := by
  intro hu
  simp [isUsable, h.status] at hu

theorem concludes_idle {e : ClientError} (h : c.transaction = .idle) : Concludes s e c :=
  fun _ => .inl h

theorem Told.idle (h : Told terms s c) (hi : s.inTransaction = false) : c.transaction = .idle := by
  have ha : s.aborted = false := by
    cases ha : s.aborted with
    | false => rfl
    | true =>
        have hinside := h.quiet.sound.inside ha
        rw [hi] at hinside
        cases hinside
  rw [h.said]
  simp [Session.status, ha, hi, TransactionState.ofStatus]

/-- A healthy transaction is committed, or the engine refused to. -/
theorem commitActive_concludes (hi : s.inTransaction = true) (ha : s.aborted = false) :
    Ensures (Settled terms s) (failingTo .failed (command "COMMIT"))
      (fun _ c => c.transaction = .idle) (Concludes s) := by
  refine Ensures.of_each fun c hc => Ensures.of_eq hc ?_
  refine failingTo_ensures ((command_told "COMMIT").mono (fun _ h => h) ?_ ?_)
  · intro tag c' h
    exact h.1.idle (ending_leaves hc.quiet (.inl rfl))
  · intro e c' hdeclined
    cases hdeclined with
    | unsent he => cases he
    | lost h => exact (h.retold .failed).concludes
    | reported h hrep report he =>
        rcases ending_healthy_calls hc.quiet (.inl rfl) ha hi h.quiet with
          ⟨hn, -⟩ | ⟨-, message, rest, hends, -⟩
        · exact absurd hrep hn
        · refine fun _ => .inr ⟨rfl, ⟨report, he⟩, message, rest, ?_⟩
          change s.EndsWith _ c'.peer
          rw [h.hears.peer]
          exact hends

theorem commitSettled_concludes :
    Ensures (Settled terms s) commitSettled (fun _ c => c.transaction = .idle) (Concludes s) := by
  unfold commitSettled
  refine Ensures.get_bind fun c hc => ?_
  cases ht : c.transaction with
  | idle =>
      refine Ensures.pure ?_
      intro _ h
      subst h
      exact ht
  | failed =>
      have rolledBack : Ensures (Settled terms s) (leaving .idle (command "ROLLBACK"))
          (fun _ c => c.transaction = .idle) (Concludes s) :=
        leaving_ensures ((command_settled "ROLLBACK").mono (fun _ h => h) (fun _ _ _ => rfl)
          fun _ _ _ => concludes_idle rfl)
      exact Ensures.of_eq hc (rolledBack.bind fun _ => Ensures.throw fun _ h => concludes_idle h)
  | active =>
      obtain ⟨hi, ha⟩ := hc.agree.active.1 ht
      exact Ensures.of_eq hc ((commitActive_concludes hi ha).bind
        fun _ => Ensures.pure fun _ h => h)

theorem commit_concludes :
    Ensures (Standing terms s) commit (fun _ c => c.transaction = .idle) (Concludes s) := by
  unfold commit
  have usable : Ensures (Standing terms s) ensureUsable (fun _ => Standing terms s)
      (Concludes s) := by
    refine ensureUsable_ensures.mono (fun _ h => h) (fun _ _ h => h.1) ?_
    intro _ c hc hu
    rw [hc.2] at hu
    cases hu
  refine usable.bind fun _ => Ensures.get_bind fun c hc => ?_
  split
  · next hidle =>
      refine Ensures.pure ?_
      intro _ h
      subst h
      exact hidle.1
  · refine Ensures.of_eq hc (timedStatement_ensures (fun _ h => h.limited)
      (fun _ _ _ h hloop hd => h.over hloop hd) (fun _ _ h => h) ?_ ?_)
    · intro e c h hu
      rcases h hu with h | ⟨h, hr, hends⟩
      · exact .inl h
      · exact .inr ⟨h, hr, hends⟩
    · exact (settle_settled.mono (fun _ h => h) (fun _ _ h => h) fun _ _ h => h.concludes).bind
        fun _ => commitSettled_concludes

end

end Connection

open Connection

namespace Desk

/-- The scope is gone, and the connection is in no transaction. -/
structure Ended {σ : Type} (scope : String) (d : Desk σ) : Prop where
  gone : scope ∉ d.scopes
  idle : d.connection.transaction = .idle

/-- However a scope is left, no transaction is left behind, unless the engine refuses to commit
it. A scope is also left when another one is begun under its name. -/
structure Contained {σ : Type} [Joined σ] (d : Desk σ) (scope : String) : Prop where
  gone : scope ∉ (d.perform (.commitScope scope)).2.scopes
  committed : (d.perform (.commitScope scope)).2.connection.isUsable = true →
    (d.perform (.commitScope scope)).2.connection.transaction = .idle ∨
      ∃ e, (d.perform (.commitScope scope)).1 = .failed e ∧
        CommitRefused d.connection.peer e (d.perform (.commitScope scope)).2.connection
  rolledBack : Ended scope (d.perform (.rollbackScope scope)).2
  dropped : Ended scope (d.perform (.dropScope scope)).2
  replaced : ∀ level, (d.perform (.beginScope scope level)).1 = .done →
    (d.perform (.beginScope scope level)).2.connection.transaction = .idle

section

variable {σ : Type} {d : Desk σ} {scope : String}

theorem endScope_eq (h : scope ∈ d.scopes) (action : Action σ Unit) :
    d.endScope scope action =
      { d with scopes := d.scopes.filter (· != scope) }.run action fun _ => .done :=
  if_pos (List.contains_iff_mem.2 h)

theorem run_scopes {α : Type} (action : Action σ α) (outcome : α → Outcome) :
    (d.run action outcome).2.scopes = d.scopes := by
  unfold run
  rcases action d.connection with ⟨e | a, c⟩
  · rfl
  · rfl

theorem endScope_gone (h : scope ∈ d.scopes) (action : Action σ Unit) :
    scope ∉ (d.endScope scope action).2.scopes := by
  rw [endScope_eq h, run_scopes]
  simp

/-- A commit of a scope comes to what a commit of its connection comes to. -/
theorem commitScope_concludes [Joined σ] {terms : Terms σ} {s : Session} (h : scope ∈ d.scopes)
    (hs : Standing terms s d.connection) :
    (d.endScope scope commit).2.connection.transaction = .idle ∨
      ∃ e, (d.endScope scope commit).1 = .failed e ∧
        Concludes s e (d.endScope scope commit).2.connection := by
  have hc := commit_concludes.run d.connection hs
  rw [endScope_eq h]
  unfold run
  dsimp only
  rcases hr : commit d.connection with ⟨e | u, c⟩
  · rw [hr] at hc
    exact .inr ⟨e, rfl, hc⟩
  · rw [hr] at hc
    exact .inl hc

/-- A scope of a connection in order is contained. -/
theorem contained [Joined σ] (h : scope ∈ d.scopes) {terms : Terms σ}
    (hd : InOrder terms d.connection) : d.Contained scope where
  gone := endScope_gone h commit
  committed := by
    intro hu
    by_cases hd' : d.connection.isUsable = true
    · obtain ⟨s, hs⟩ := hd.standing hd'
      rcases commitScope_concludes h hs with hidle | ⟨e, he, hc⟩
      · exact .inl hidle
      · rw [hs.peer]
        exact (hc hu).imp_right fun hr => ⟨e, he, hr⟩
    · have hr : commit d.connection = (.error .connectionClosed, d.connection) :=
        refuses (by simpa using hd')
      have he : (d.endScope scope commit).2.connection = d.connection := by
        rw [endScope_eq h, run_connection, hr]
      rw [perform, he] at hu
      exact absurd hu hd'
  rolledBack := by
    refine ⟨endScope_gone h rollback, ?_⟩
    rw [perform, endScope_eq h, run_connection]
    exact rollback_idle _
  dropped := by
    rw [perform, if_pos (List.contains_iff_mem.2 h)]
    exact ⟨by simp [abandonScope], rollback_idle _⟩
  replaced level hdone := by
    rw [perform] at hdone ⊢
    unfold beginScope at hdone ⊢
    generalize begin level.sql d.connection = r at hdone ⊢
    obtain ⟨e | u, c⟩ := r
    · cases hdone
    · dsimp only
      rw [if_pos (List.contains_iff_mem.2 h)]
      exact rollback_idle c

end

/-- No scope leaks its transaction: whatever was done on a connection to a session, and however an
open scope is left then, the connection is in no transaction afterwards, unless the engine refused
to commit. -/
theorem scopes_contain_transactions {σ : Type} [Joined σ] (options : ConnectOptions) (channel : σ)
    (config : ServerConfig) (processId secretKey : Int32) (engine : Engine)
    (operations : List Operation) (scope : String)
    (joined : Joined.loop channel =
      Loopback.toSession (Session.opened config processId secretKey engine))
    (opened : scope ∈
      (Desk.performAll { connection := (connect options channel).2 } operations).2.scopes) :
    Contained (Desk.performAll { connection := (connect options channel).2 } operations).2 scope :=
  contained opened (performAll_inOrder operations joined)

theorem scopes_contain_transactions_begun :
    let operations := [Operation.beginScope "t" .serverDefault, .executeIn "t" "SELECT 1" []]
    let desk := (Desk.performAll { connection := (connect {} Loopback.accepting).2 } operations).2
    "t" ∈ desk.scopes ∧ Contained desk "t" :=
  ⟨by decide +kernel, scopes_contain_transactions {} Loopback.accepting _ 1 2 _
    [.beginScope "t" .serverDefault, .executeIn "t" "SELECT 1" []] "t" rfl (by decide +kernel)⟩

end Desk

def Loopback.refusingCommit : Loopback :=
  toSession (Session.opened { databasePath := "db" } 1 2
    { answers := [.affected 0 none, .error "disk I/O error" none] })

namespace Desk

/-- The scope is gone and the session is in no transaction, but the connection takes one to have
failed. -/
theorem refused_commit_leaves_failure :
    let d := (Desk.performAll { connection := (connect {} Loopback.refusingCommit).2 }
      [.beginScope "t" .serverDefault]).2
    let left := (d.perform (.commitScope "t")).2
    d.scopes = ["t"] ∧ left.scopes = [] ∧ left.connection.status = .ready ∧
      left.connection.transaction = .failed ∧ left.connection.peer.inTransaction = false := by
  decide +kernel

end Desk

end SqlWire
