import SqlWire.Proofs.Joint.Agreement

/-!
# What a commit decides

A commit that succeeds has ended the transaction with a call of the engine that committed it. One
that fails on a connection which can still be used has ended the transaction without such a call,
and if it says that the transaction was aborted, the transaction was rolled back.
-/

namespace SqlWire

open Session

namespace Connection

section

variable {σ : Type} [Joined σ]

/-- The transaction that the session was in was committed. -/
def Committed (s : Session) (c : Connection σ) : Prop :=
  s.EndsWith [("COMMIT", .ok ())] c.peer

/-- The transaction that the session was in was not committed; it was rolled back if the error
says that it was aborted. -/
def Uncommitted (s : Session) (e : ClientError) (c : Connection σ) : Prop :=
  ∃ log, s.EndsWith log c.peer ∧ ("COMMIT", .ok ()) ∉ log ∧
    (e = .transactionAborted → ∃ result rest, log = ("ROLLBACK", result) :: rest)

variable {terms : Terms σ} {s : Session} {c : Connection σ}

/-- The connection cannot be used any more, or the transaction was not committed. -/
def GivenUp (s : Session) (e : ClientError) (c : Connection σ) : Prop :=
  c.isUsable = true → Uncommitted s e c

theorem Lost.givenUp {e e' : ClientError} (h : Lost terms e c) : GivenUp s e' c := by
  intro hu
  simp [isUsable, h.status] at hu

omit [Joined σ] in
theorem not_committed {first : String × Except String Unit}
    {rest : List (String × Except String Unit)} (hfirst : first ≠ ("COMMIT", .ok ()))
    (hrest : ∀ call ∈ rest, call.1 = "ROLLBACK") : ("COMMIT", .ok ()) ∉ first :: rest := by
  intro h
  rcases List.mem_cons.1 h with h | h
  · exact hfirst h.symm
  · have hword := hrest _ h
    simp at hword

theorem Standing.peer (h : Standing terms s c) : c.peer = s := by
  rcases h with h | ⟨_, _, -, _, _, h, -⟩
  · exact h.hears.peer
  · exact h.peer

/-- A healthy transaction is committed, or the engine refused to. -/
theorem commitActive_decides (hi : s.inTransaction = true) (ha : s.aborted = false) :
    Ensures (Settled terms s) (failingTo .failed (command "COMMIT")) (fun _ => Committed s)
      (GivenUp s) := by
  refine Ensures.of_each fun c hc => Ensures.of_eq hc ?_
  have hending := ending_healthy_calls hc.quiet (.inl rfl) ha hi
  refine failingTo_ensures ((command_reported "COMMIT").mono (fun _ h => h) ?_ ?_)
  · intro tag c' hc
    obtain ⟨h, hrep⟩ := hc
    rcases hending h.quiet with ⟨-, hends⟩ | ⟨hn, -⟩
    · unfold Committed
      rw [h.hears.peer]
      exact hends
    · exact absurd hn hrep
  · intro e c' hdeclined
    cases hdeclined with
    | unsent he => cases he
    | lost h => exact (h.retold .failed).givenUp
    | reported h hrep report he =>
        rcases hending h.quiet with ⟨hn, -⟩ | ⟨-, message, rest, hends, hrest⟩
        · exact absurd hrep hn
        · intro _
          refine ⟨("COMMIT", .error message) :: rest, ?_, not_committed (by simp) hrest,
            by simp [he, ClientError.ofReport]⟩
          change s.EndsWith _ c'.peer
          rw [h.hears.peer]
          exact hends

theorem commitFailed_decides (ha : s.aborted = true) :
    Ensures (Settled terms s) (leaving .idle (command "ROLLBACK"))
      (fun _ => Uncommitted s .transactionAborted) (GivenUp s) := by
  refine Ensures.of_each fun c hc => Ensures.of_eq hc ?_
  obtain ⟨result, rest, hends, hrest⟩ := ending_aborted_calls hc.quiet (.inr rfl) ha
  have rolledBack {c' : Connection σ} (e : ClientError)
      (h : Settled terms (asked s "ROLLBACK") c') :
      Uncommitted s e { c' with transaction := .idle } := by
    refine ⟨("ROLLBACK", result) :: rest, ?_, not_committed (by simp) hrest,
      fun _ => ⟨result, rest, rfl⟩⟩
    change s.EndsWith _ c'.peer
    rw [h.hears.peer]
    exact hends
  refine leaving_ensures ((command_settled "ROLLBACK").mono (fun _ h => h)
    (fun _ _ h => rolledBack _ h) ?_)
  intro e c' hdeclined
  cases hdeclined with
  | unsent he => cases he
  | lost h => exact (h.retold .idle).givenUp
  | reported h => exact fun _ => rolledBack e h

theorem commitSettled_decides (hi : s.inTransaction = true) :
    Ensures (Settled terms s) commitSettled (fun _ => Committed s) (GivenUp s) := by
  unfold commitSettled
  refine Ensures.get_bind fun c hc => ?_
  cases ht : c.transaction with
  | idle =>
      have hidle := hc.agree.idle ht
      rw [hi] at hidle
      cases hidle
  | failed =>
      have ha : s.aborted = true := by
        cases ha : s.aborted with
        | true => rfl
        | false =>
            have hactive := hc.agree.active.2 ⟨hi, ha⟩
            rw [ht] at hactive
            cases hactive
      exact Ensures.of_eq hc ((commitFailed_decides ha).bind
        fun _ => Ensures.throw fun _ h _ => h)
  | active =>
      exact Ensures.of_eq hc ((commitActive_decides hi (hc.agree.active.1 ht).2).bind
        fun _ => Ensures.pure fun _ h => h)

theorem commit_decides (hi : s.inTransaction = true) :
    Ensures (Standing terms s) commit (fun _ => Committed s) (GivenUp s) := by
  unfold commit
  have usable : Ensures (Standing terms s) ensureUsable (fun _ => Standing terms s)
      (GivenUp s) := by
    refine ensureUsable_ensures.mono (fun _ h => h) (fun _ _ h => h.1) ?_
    intro _ c hc
    obtain ⟨h, hu⟩ := hc
    rw [h.usable] at hu
    cases hu
  refine usable.bind fun _ => Ensures.get_bind fun c hc => ?_
  -- a connection without a transaction may have missed one only while a result is open
  have hpending : ¬(c.transaction = .idle ∧ (!c.isStreaming) = true) := by
    intro h
    obtain ⟨hidle, hstreaming⟩ := h
    rcases hc with hc | ⟨id, columns, hs, -⟩
    · rw [hc.agree.idle hidle] at hi
      cases hi
    · simp [isStreaming, hs] at hstreaming
  rw [if_neg hpending]
  refine Ensures.of_eq hc (timedStatement_ensures (fun _ h => h.limited)
    (fun _ _ _ h hloop hd => h.over hloop hd) (fun _ _ h => h) (fun _ _ h => h) ?_)
  exact (settle_settled.mono (fun _ h => h) (fun _ _ h => h) fun _ _ h => h.givenUp).bind
    fun _ => commitSettled_decides hi

end

end Connection

open Connection

/-- No commit is lost and none is a phantom: a commit asked for while the session is in a
transaction succeeds only if the engine committed it, and fails on a connection that can still be
used only if the engine did not. -/
theorem commit_decides_transaction {σ : Type} [Joined σ] (options : ConnectOptions) (channel : σ)
    (config : ServerConfig) (processId secretKey : Int32) (engine : Engine)
    (operations : List Operation)
    (joined : Joined.loop channel =
      Loopback.toSession (Session.opened config processId secretKey engine)) :
    let desk : Desk σ := { connection := (connect options channel).2 }
    let c := (desk.performAll operations).2.connection
    c.peer.inTransaction = true →
      Ends (fun _ c' => Committed c.peer c')
        (fun e c' => c'.isUsable = true → Uncommitted c.peer e c') (commit c) := by
  intro desk c inside
  have hc : InOrder (Terms.any σ) c := performAll_inOrder operations joined
  by_cases hu : c.isUsable = true
  · obtain ⟨s, hs⟩ := hc.standing hu
    have hpeer := hs.peer
    rw [hpeer] at inside ⊢
    exact (commit_decides inside).run c hs
  · have hr : commit c = (.error .connectionClosed, c) := by
      unfold commit ensureUsable
      simp only [bind_apply, get_apply, hu]
      rfl
    rw [hr]
    exact fun h => absurd h hu

theorem commit_decides_begun :
    let desk : Desk Loopback := { connection := (connect {} Loopback.accepting).2 }
    let c := (desk.performAll [.execute "BEGIN" []]).2.connection
    c.peer.inTransaction = true ∧
      Ends (fun _ c' => Committed c.peer c')
        (fun e c' => c'.isUsable = true → Uncommitted c.peer e c') (commit c) :=
  ⟨by decide +kernel, commit_decides_transaction {} Loopback.accepting _ 1 2 _
    [.execute "BEGIN" []] rfl (by decide +kernel)⟩

end SqlWire
