import SqlWire.Proofs.Client.Parameters

/-!
# What an execution sends

An execution hands at most two pieces to its channel: the beginning of a transaction, and the
statement. Which of them it hands over is decided by the connection as it is before and behind the
drain of a pending result, by the kind of the statement, by whether the statement has a form as
bytes, and by the answer to the beginning of the transaction.
-/

namespace SqlWire

def BackendMessage.continuesCommand : BackendMessage → Bool
  | rowDescription _ | dataRow _ | commandComplete _ | emptyQueryResponse | errorResponse _ => true
  | _ => false

namespace Connection

/-! ## Commands that are granted -/

section

variable {σ : Type} [Channel σ]

/-- The connection reads these messages, which are a whole answer to a command: the last of them
says that the server is ready. -/
inductive HearsOut : Connection σ → List BackendMessage → Prop
  | ready {c d : Connection σ} {status : TransactionStatus}
      (received : receive c = (.ok (.readyForQuery status), d)) : HearsOut c [.readyForQuery status]
  | onward {c d : Connection σ} {m : BackendMessage} {ms : List BackendMessage}
      (received : receive c = (.ok m, d)) (continues : m.continuesCommand = true)
      (rest : HearsOut d ms) : HearsOut c (m :: ms)

/-- The command can be sent, and its whole answer is read and reports no error. -/
def Granted (sql : String) (c : Connection σ) : Prop :=
  ∃ asked ms, send [.query sql] c = (.ok (), asked) ∧ HearsOut asked ms ∧ ¬HasError ms

theorem converse_heard {answer : Answer} {tag : Option String} {c d : Connection σ}
    (h : converse commandTurn throw answer c = (.ok tag, d)) :
    answer.error = none ∧ ∃ ms, HearsOut c ms ∧ ¬HasError ms := by
  fun_induction converse commandTurn throw answer c with
  | case1 => cases h
  | case2 answer c m c' hr next hn ih =>
      obtain ⟨unreported, ms, heard, fine⟩ := ih h
      have onward (hm : m.continuesCommand = true)
          (he : ∀ report, m ≠ .errorResponse report) : ∃ ms, HearsOut c ms ∧ ¬HasError ms :=
        ⟨m :: ms, .onward hr hm heard, fun error => fine ((hasError_cons he).1 error)⟩
      cases m with
      | commandComplete | rowDescription | dataRow | emptyQueryResponse =>
          cases hn
          exact ⟨unreported, onward rfl fun _ h => (by cases h)⟩
      | errorResponse =>
          cases hn
          cases unreported
      | _ => cases hn
  | case3 answer c m c' hr action hn =>
      cases m with
      | readyForQuery status =>
          cases hn
          cases he : answer.error with
          | none =>
              refine ⟨rfl, _, .ready hr, fun error => hasError_nil ?_⟩
              exact (hasError_cons (m := .readyForQuery status) (fun _ h => by cases h)).1 error
          | some report =>
              rw [he] at h
              cases h
      | commandComplete | rowDescription | dataRow | emptyQueryResponse | errorResponse => cases hn
      | _ =>
          cases hn
          cases h

theorem HearsOut.converse {answer : Answer} {c : Connection σ} {ms : List BackendMessage}
    (h : HearsOut c ms) (fine : ¬HasError ms) (unreported : answer.error = none) :
    ∃ tag d, Connection.converse commandTurn throw answer c = (.ok tag, d) := by
  induction h generalizing answer with
  | ready received =>
      rw [converse_eq, received]
      obtain ⟨tag, error⟩ := answer
      cases unreported
      exact ⟨tag, _, rfl⟩
  | @onward c d m ms received continues rest ih =>
      rw [converse_eq, received]
      have behind (he : ∀ report, m ≠ .errorResponse report) : ¬HasError ms :=
        fun error => fine ((hasError_cons he).2 error)
      cases m with
      | commandComplete | rowDescription | dataRow | emptyQueryResponse =>
          exact ih (behind fun _ h => by cases h) unreported
      | errorResponse report => exact absurd ⟨report, List.mem_cons_self⟩ fine
      | _ => cases continues

/-- A command gives a result exactly if it is granted. -/
theorem command_granted (sql : String) (c : Connection σ) :
    (∃ tag d, command sql c = (.ok tag, d)) ↔ Granted sql c := by
  unfold command
  rw [bind_apply]
  rcases hs : send [.query sql] c with ⟨e | u, asked⟩
  · refine ⟨fun ⟨_, _, h⟩ => (by cases h), fun ⟨_, _, h, _⟩ => ?_⟩
    cases hs.symm.trans h
  · constructor
    · rintro ⟨tag, d, h⟩
      obtain ⟨-, ms, heard, fine⟩ := converse_heard h
      exact ⟨asked, ms, hs, heard, fine⟩
    · rintro ⟨asked', ms, h, heard, fine⟩
      cases hs.symm.trans h
      exact heard.converse fine rfl

/-! ## The course of an execution -/

def Barred (sql : String) (c : Connection σ) : Prop :=
  c.transaction = .failed ∧ (SqlKind.ofText sql).endsTransaction = false

/-- A transaction is to be begun for the statement. -/
def Begins (sql : String) (c : Connection σ) : Prop :=
  c.autocommit = false ∧ c.transaction = .idle ∧
    (SqlKind.ofText sql).isTransactionControl = false

/-- The statement is let through to the drain. -/
def LetThrough (sql : String) (c : Connection σ) : Prop :=
  c.isUsable = true ∧ ¬Barred sql c

def proceed (sql : String) (params : List Value) : Action σ Submitted := do
  ensureAccepted (SqlKind.ofText sql)
  let c ← get
  if !c.autocommit ∧ c.transaction = .idle ∧ !(SqlKind.ofText sql).isTransactionControl then
    let _ ← command "BEGIN"
  submit sql params

variable {sql : String} {params : List Value} {c d : Connection σ} {e : ClientError}

omit [Channel σ] in
theorem ensureAccepted_barred (h : Barred sql c) :
    ensureAccepted (SqlKind.ofText sql) c = (.error .transactionAborted, c) := by
  unfold Barred at h
  rw [ensureAccepted_apply, if_pos h]

omit [Channel σ] in
theorem ensureAccepted_unbarred (h : ¬Barred sql c) :
    ensureAccepted (SqlKind.ofText sql) c = (.ok (), c) := by
  unfold Barred at h
  rw [ensureAccepted_apply, if_neg h]

theorem execute_refused (h : ¬LetThrough sql c) : (execute sql params c).2 = c := by
  unfold execute
  cases hu : c.isUsable with
  | false => rw [refuses hu]
  | true =>
      have barred : Barred sql c := by_contra fun hb => h ⟨hu, hb⟩
      rw [admits hu, bind_apply, ensureAccepted_barred barred]

/-- Between the drain and its end, an execution does nothing but what it does behind the drain. -/
theorem execute_apply (h : LetThrough sql c) :
    execute sql params c = timedStatement (settle >>= fun _ => proceed sql params) c := by
  unfold execute
  rw [admits h.1, bind_apply, ensureAccepted_unbarred h.2]
  rfl

theorem proceed_barred (h : Barred sql d) : (proceed sql params d).2 = d := by
  unfold proceed
  rw [bind_apply, ensureAccepted_barred h]

/-- What is not refused behind the drain is submitted, behind a command if it begins a
transaction. -/
theorem proceed_unbarred (h : ¬Barred sql d) :
    (Begins sql d →
        proceed sql params d = (command "BEGIN" >>= fun _ => submit sql params) d) ∧
      (¬Begins sql d → proceed sql params d = submit sql params d) := by
  unfold proceed Begins
  rw [bind_apply, ensureAccepted_unbarred h]
  dsimp only
  rw [bind_apply, get_apply]
  dsimp only
  constructor
  · intro begins
    rw [if_pos (by simpa using begins)]
  · intro settled
    rw [if_neg (by simpa using settled)]

end

/-! ## What is handed over -/

section

variable {σ : Type} [Channel σ] {sql : String} {params : List Value} {c d : Connection (Logged σ)}

def InOnePiece (messages : List FrontendMessage) (pieces : List Bytes) : Prop :=
  ∃ bytes, FrontendMessage.encodeAll messages = .ok bytes ∧ pieces = [bytes]

theorem settle_sends (c : Connection (Logged σ)) : (settle c).2.sends = c.sends := by
  have drained : Ensures (·.sends = c.sends) (settle : Action (Logged σ) Unit)
      (fun _ => (·.sends = c.sends)) (fun _ => (·.sends = c.sends)) :=
    (readings_sends c.sends).drained (fun _ h _ => h) fun _ h _ => h
  exact drained.state rfl

theorem begin_hands_over (d : Connection (Logged σ)) :
    (command "BEGIN" d).2.sends = d.sends ++ [beginning] :=
  begin_sends.state rfl

/-- The statement is handed over exactly if it has a form as bytes. -/
theorem submit_hands_over (sql : String) (params : List Value) (d : Connection (Logged σ)) :
    ∃ statement, (submit sql params d).2.sends = d.sends ++ statement ∧
      (statement = [] ∨ InOnePiece (statementMessages sql params) statement) ∧
      (statement ≠ [] ↔
        ∃ bytes, FrontendMessage.encodeAll (statementMessages sql params) = .ok bytes) := by
  cases hb : FrontendMessage.encodeAll (statementMessages sql params) with
  | ok bytes =>
      exact ⟨[bytes], (submit_sends hb).state rfl, .inr ⟨bytes, hb, rfl⟩, by simp⟩
  | error e =>
      have withheld : Ensures (·.sends = d.sends) (submit sql params : Action (Logged σ) Submitted)
          (fun _ => (·.sends = d.sends)) (fun _ => (·.sends = d.sends)) :=
        (submit_withheld hb).mono (fun _ h => h) (fun _ _ h => h.elim) fun _ _ h => h
      exact ⟨[], by rw [withheld.state rfl, List.append_nil], .inl rfl, by simp⟩

/-- What is handed over behind the drain, where the connection is as `d`: the beginning of a
transaction if one is to be begun, and the statement if it has a form as bytes and the transaction,
if it was to be begun, was granted. -/
structure Decided (sql : String) (params : List Value) (d : Connection (Logged σ))
    (opening statement : List Bytes) : Prop where
  barred : Barred sql d → opening = [] ∧ statement = []
  begins : ¬Barred sql d → (opening ≠ [] ↔ Begins sql d)
  submits : ¬Barred sql d → (statement ≠ [] ↔
    (∃ bytes, FrontendMessage.encodeAll (statementMessages sql params) = .ok bytes) ∧
      (opening ≠ [] → Granted "BEGIN" d))

theorem beginning_inOnePiece : InOnePiece [.query "BEGIN"] [beginning] :=
  ⟨beginning, by decide +kernel, rfl⟩

theorem proceed_decides (sql : String) (params : List Value) (d : Connection (Logged σ)) :
    ∃ opening statement, (proceed sql params d).2.sends = d.sends ++ opening ++ statement ∧
      (opening = [] ∨ InOnePiece [.query "BEGIN"] opening) ∧
      (statement = [] ∨ InOnePiece (statementMessages sql params) statement) ∧
      Decided sql params d opening statement := by
  by_cases hb : Barred sql d
  · rw [proceed_barred hb]
    exact ⟨[], [], by simp, .inl rfl, .inl rfl, fun _ => ⟨rfl, rfl⟩, fun h => absurd hb h,
      fun h => absurd hb h⟩
  by_cases begins : Begins sql d
  · rw [(proceed_unbarred hb).1 begins, bind_apply]
    have begun := begin_hands_over d
    have opens : [beginning] ≠ [] ↔ Begins sql d := iff_of_true (by simp) begins
    rcases hr : command "BEGIN" d with ⟨e | tag, asked⟩
    · have ungranted : ¬Granted "BEGIN" d := by
        intro h
        obtain ⟨tag, asked', h⟩ := (command_granted "BEGIN" d).2 h
        cases hr.symm.trans h
      rw [hr] at begun
      exact ⟨[beginning], [], by simpa using begun, .inr beginning_inOnePiece, .inl rfl,
        fun h => absurd h hb, fun _ => opens,
        fun _ => iff_of_false (by simp) fun h => ungranted (h.2 (by simp))⟩
    · have granted : Granted "BEGIN" d := (command_granted "BEGIN" d).1 ⟨tag, asked, hr⟩
      rw [hr] at begun
      obtain ⟨statement, sends, piece, handed⟩ := submit_hands_over sql params asked
      refine ⟨[beginning], statement, sends.trans (by rw [begun]), .inr beginning_inOnePiece,
        piece, fun h => absurd h hb, fun _ => opens, fun _ => ?_⟩
      exact handed.trans ⟨fun h => ⟨h, fun _ => granted⟩, fun h => h.1⟩
  · rw [(proceed_unbarred hb).2 begins]
    obtain ⟨statement, sends, piece, handed⟩ := submit_hands_over sql params d
    refine ⟨[], statement, by simpa using sends, .inl rfl, piece, fun h => absurd h hb,
      fun _ => iff_of_false (by simp) begins, fun _ => ?_⟩
    exact handed.trans ⟨fun h => ⟨h, fun h => absurd rfl h⟩, fun h => h.1⟩

structure Dispatch (sql : String) (params : List Value) (c : Connection (Logged σ))
    (opening statement : List Bytes) : Prop where
  sends : (execute sql params c).2.sends = c.sends ++ opening ++ statement
  first : opening = [] ∨ InOnePiece [.query "BEGIN"] opening
  second : statement = [] ∨ InOnePiece (if params = [] then [.query sql] else
    [.parse "" sql (params.map TypeOid.ofParam), .bind "" "" (params.map Value.toParam),
      .describe .portal "", .execute "" 0, .sync]) statement
  /-- Nothing is done with the channel, nor changed in the connection. -/
  refused : ¬LetThrough sql c → (execute sql params c).2 = c
  undrained : ∀ e d, settle (c.started c.statementTimeout) = (.error e, d) →
    opening = [] ∧ statement = []
  drained : ∀ d, LetThrough sql c → settle (c.started c.statementTimeout) = (.ok (), d) →
    Decided sql params d opening statement

theorem statementMessages_eq (sql : String) (params : List Value) :
    statementMessages sql params = if params = [] then [.query sql] else
      [.parse "" sql (params.map TypeOid.ofParam), .bind "" "" (params.map Value.toParam),
        .describe .portal "", .execute "" 0, .sync] := by
  by_cases hp : params = []
  · subst hp
    rfl
  · rw [if_neg hp, statementMessages_params hp]

/-- Whatever the state of a connection and whatever its channel does, an execution hands over at
most the beginning of a transaction and then the statement, each in one piece. If the connection is
of no more use, or the transaction has failed and the statement does not end it, nothing is done at
all. Nothing is handed over if a pending result cannot be drained, or if the transaction has failed
behind it. Otherwise a transaction is begun exactly if there is none, autocommit is off and the
statement is no transaction control; and the statement follows exactly if it has a form as bytes
and the transaction, if it was begun, was granted by an answer that was read to its end. -/
theorem execute_dispatches (c : Connection (Logged σ)) (sql : String) (params : List Value) :
    ∃ opening statement, Dispatch sql params c opening statement := by
  by_cases through : LetThrough sql c
  case neg =>
    have still : (execute sql params c).2 = c := execute_refused through
    exact ⟨[], [], by simp [still], .inl rfl, .inl rfl, fun _ => still, fun _ _ _ => ⟨rfl, rfl⟩,
      fun _ h => absurd h through⟩
  have run : execute sql params c =
      timed c.statementTimeout (settle >>= fun _ => proceed sql params) c := execute_apply through
  have started : (c.started c.statementTimeout).sends = c.sends := by
    cases c.statementTimeout <;> rfl
  have settled := (settle_sends (c.started c.statementTimeout)).trans started
  rw [timed_apply, bind_apply] at run
  rcases hs : settle (c.started c.statementTimeout) with ⟨e | u, d⟩
  case error =>
    rw [hs] at run settled
    have sends : (execute sql params c).2.sends = c.sends := by
      rw [run]
      exact settled
    exact ⟨[], [], by simp [sends], .inl rfl, .inl rfl, fun h => absurd through h,
      fun _ _ _ => ⟨rfl, rfl⟩, fun _ _ h => nomatch hs.symm.trans h⟩
  case ok =>
    rw [hs] at run settled
    obtain ⟨opening, statement, sends, first, second, decided⟩ := proceed_decides sql params d
    rw [statementMessages_eq] at second
    refine ⟨opening, statement, ?_, first, second, fun h => absurd through h,
      fun _ _ h => (nomatch hs.symm.trans h), fun d' _ h => ?_⟩
    · rw [run]
      exact sends.trans (by rw [settled])
    · cases hs.symm.trans h
      exact decided

end

end Connection

end SqlWire
