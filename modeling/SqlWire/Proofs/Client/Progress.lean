import SqlWire.Client.Script
import SqlWire.Proofs.Client.Invariants
import SqlWire.Proofs.Client.Reading
import SqlWire.Proofs.Loops

/-!
# Reading comes to an end

A connection reads in loops: until there is a message, until an answer is complete, until the
server has greeted, until there are no more rows. Every round of such a loop that calls for another
one uses up some of what is at hand, so each loop comes to its result, whatever the bytes are, and a
bound that is larger than what is at hand is as good as any other of that kind.
-/

namespace SqlWire

theorem Script.send_pending (bytes : Bytes) (s : Script) :
    Channel.pending (Channel.send bytes s).2 ≤ Channel.pending s := by
  change weight (s.send bytes).2.deliveries ≤ weight s.deliveries
  unfold send
  dsimp only
  split
  · exact Nat.le_refl _
  · exact Nat.le_refl _

variable {σ : Type} [Channel σ] {α β : Type}

namespace Connection

/-! ## The next message -/

/-- The front of what is buffered is taken off if it is a message, and otherwise more is read. -/
def receiveRound (c : Connection σ) :
    Round (Connection σ) (Except ClientError BackendMessage × Connection σ) :=
  match Frame.next c.buffer with
  | .error e => .leave (breakWith (.ofWire e) c)
  | .ok none =>
    match fill c with
    | (.error e, c) => .leave (.error e, c)
    | (.ok (), c) => .again c
  | .ok (some (frame, rest)) =>
    match BackendMessage.decode frame with
    | .error e => .leave (breakWith (.ofWire e) { c with buffer := rest })
    | .ok (.parameterStatus name value) =>
      .again { c with buffer := rest, parameters := (name, value) :: c.parameters }
    | .ok (.noticeResponse _) => .again { c with buffer := rest }
    | .ok m => .leave (.ok m, { c with buffer := rest })

theorem receive_unrolled (c : Connection σ) : receive c = (receiveRound c).result receive := by
  fun_cases receive c with
  | case1 e hn => simp only [receiveRound, hn, Round.result]
  | case2 hn e c' hf => simp only [receiveRound, hn, hf, Round.result]
  | case3 hn c' hf => simp only [receiveRound, hn, hf, Round.result]
  | case4 frame rest hn e hd => simp only [receiveRound, hn, hd, Round.result]
  | case5 frame rest hn name value hd => simp only [receiveRound, hn, hd, Round.result]
  | case6 frame rest hn report hd => simp only [receiveRound, hn, hd, Round.result]
  | case7 frame rest hn m hp hr hd =>
      cases m with
      | parameterStatus name value => exact absurd rfl (hp name value)
      | noticeResponse report => exact absurd rfl (hr report)
      | _ => simp only [receiveRound, hn, hd, Round.result]

theorem receiveRound_lowers {c c' : Connection σ} (h : receiveRound c = .again c') :
    c'.backlog < c.backlog := by
  unfold receiveRound at h
  split at h
  · cases h
  · split at h
    · cases h
    · next hf =>
        cases h
        exact fill_backlog hf
  · next frame rest hn =>
      have hshort := Frame.next_shorter hn
      split at h
      · cases h
      · cases h
        exact Nat.add_lt_add_left hshort _
      · cases h
        exact Nat.add_lt_add_left hshort _
      · cases h

theorem receive_loops (c : Connection σ) :
    ∃ n ≤ c.backlog + 1, Loops receiveRound c n (receive c) :=
  Loops.of_lowers backlog receiveRound_lowers receive_unrolled c

/-! ## An answer -/

def converseRound (react : α → BackendMessage → Turn σ α β)
    (onFailure : ClientError → Action σ β) (s : α × Connection σ) :
    Round (α × Connection σ) (Except ClientError β × Connection σ) :=
  match receive s.2 with
  | (.error e, c) => .leave (onFailure e c)
  | (.ok m, c) =>
    match react s.1 m with
    | .expect state => .again (state, c)
    | .finish action => .leave (action c)

theorem converse_loops (react : α → BackendMessage → Turn σ α β)
    (onFailure : ClientError → Action σ β) (state : α) (c : Connection σ) :
    ∃ n ≤ c.backlog + 1,
      Loops (converseRound react onFailure) (state, c) n (converse react onFailure state c) := by
  refine Loops.of_lowers (f := fun s => converse react onFailure s.1 s.2) (·.2.backlog) ?_ ?_
    (state, c)
  · intro s s' h
    unfold converseRound at h
    split at h
    · cases h
    · next hr =>
        split at h
        · cases h
          exact receive_backlog hr
        · cases h
  · intro s
    obtain ⟨state, c⟩ := s
    dsimp only
    fun_cases converse react onFailure state c with
    | case1 e c' hr => simp only [converseRound, hr, Round.result]
    | case2 m c' hr next hn => simp only [converseRound, hr, hn, Round.result]
    | case3 m c' hr action hn => simp only [converseRound, hr, hn, Round.result]

/-- A reader that ends well has read something. -/
theorem converse_lowers {react : α → BackendMessage → Turn σ α β}
    {onFailure : ClientError → Action σ β} {n : Nat}
    (hturn : ∀ a m action, react a m = .finish action →
      Ensures (·.backlog < n) action (fun _ c => c.backlog < n) (fun _ _ => True))
    (hfail : ∀ e, Ensures (fun _ => True) (onFailure e) (fun _ _ => False) (fun _ _ => True))
    (a : α) :
    Ensures (·.backlog ≤ n) (converse react onFailure a) (fun _ c => c.backlog < n)
      (fun _ _ => True) := by
  constructor
  intro c hc
  fun_induction converse react onFailure a c with
  | case1 a c e d hr =>
      exact ((hfail e).run d trivial).mono (fun _ _ h => h.elim) fun _ _ h => h
  | case2 a c m d hr next hn ih =>
      have := receive_backlog hr
      exact ih (by omega)
  | case3 a c m d hr action hn =>
      have := receive_backlog hr
      exact (hturn a m action hn).run d (by omega)

/-! ## The handshake -/

def authenticateRound (password : Option String) (c : Connection σ) :
    Round (Connection σ) (Except ClientError Unit × Connection σ) :=
  match converse greetingTurn throw none c with
  | (.error e, c) => .leave (.error e, c)
  | (.ok .begin, c) => .leave (.ok (), c)
  | (.ok .givePassword, c) =>
    match password with
    | none => .leave (.error .passwordMissing, c)
    | some text =>
      match send [.password text] c with
      | (.error e, c) => .leave (.error e, c)
      | (.ok (), c) => .again c

theorem authenticate_unrolled (password : Option String) (times : Nat) (c : Connection σ) :
    authenticate password (times + 1) c =
      (authenticateRound password c).result (authenticate password times) := by
  unfold authenticateRound
  change ((show Action σ Greeting from converse greetingTurn throw none) >>= _ :
    Action σ Unit) c = _
  rw [bind_apply]
  rcases converse greetingTurn throw none c with ⟨e | _ | _, c'⟩
  · rfl
  · cases password with
    | none => rfl
    | some text =>
        dsimp only
        rw [bind_apply]
        rcases send [.password text] c' with ⟨e | _, c''⟩
        · rfl
        · rfl
  · rfl

/-- What the server asks for uses up some of what is at hand. -/
theorem greeting_lowers (n : Nat) :
    Ensures (·.backlog ≤ n) (converse greetingTurn throw none : Action σ Greeting)
      (fun _ c => c.backlog < n) (fun _ _ => True) := by
  have kept (key : Option BackendKey) (g : Greeting) :
      Ensures (·.backlog < n) (do modify (keepKey key); return g : Action σ Greeting)
        (fun _ c => c.backlog < n) (fun _ _ => True) :=
    Ensures.bind (Q := fun _ c => c.backlog < n) (Ensures.modify fun _ h => h)
      fun _ => Ensures.pure fun _ h => h
  refine converse_lowers (fun key m action h => ?_) (fun e => Ensures.throw fun _ _ => trivial) none
  cases m with
  | authenticationOk | backendKeyData => cases h
  | authenticationCleartextPassword | readyForQuery =>
      cases h
      exact kept key _
  | _ =>
      cases h
      exact Ensures.throw fun _ _ => trivial

section

variable (unread : ∀ bytes (s : σ), Channel.pending (Channel.send bytes s).2 ≤ Channel.pending s)
include unread

theorem authenticateRound_lowers {password : Option String} {c c' : Connection σ}
    (h : authenticateRound password c = .again c') : c'.backlog < c.backlog := by
  unfold authenticateRound at h
  split at h
  · cases h
  · cases h
  · next d hg =>
      have hlow := (greeting_lowers c.backlog).ok (Nat.le_refl _) hg
      cases password with
      | none => cases h
      | some text =>
          have sent : Ensures (·.backlog < c.backlog) (send [.password text] : Action σ Unit)
              (fun _ c' => c'.backlog < c.backlog) (fun _ _ => True) :=
            send_ensures _ (fun _ => trivial)
              (fun bytes h => Nat.lt_of_le_of_lt (Nat.add_le_add_right (unread bytes _) _) h)
              fun _ => trivial
          dsimp only at h
          split at h
          · cases h
          · next hs =>
              cases h
              exact sent.ok hlow hs

theorem authenticate_loops (password : Option String) (c : Connection σ) :
    ∃ n ≤ c.backlog + 1,
      Loops (authenticateRound password) c n (authenticate password (c.backlog + 1) c) :=
  Loops.of_fuel backlog (authenticateRound_lowers unread) (authenticate_unrolled password)
    (Nat.lt_succ_self _)

/-- The server cannot ask for a password more often than there is something at hand. -/
theorem authenticate_enough (password : Option String) {n m : Nat} {c : Connection σ}
    (hn : c.backlog < n) (hm : c.backlog < m) :
    authenticate password n c = authenticate password m c :=
  Loops.enough backlog (authenticateRound_lowers unread) (authenticate_unrolled password) hn hm

end

/-! ## Rows -/

theorem started_backlog (limit : Option Duration) (c : Connection σ) :
    (c.started limit).backlog ≤ c.backlog := by
  cases limit with
  | none => exact Nat.le_refl _
  | some d => exact Nat.add_le_add_right (Channel.pending_now c.channel) _

theorem failTransaction_backlog (c : Connection σ) : c.failTransaction.backlog = c.backlog := by
  unfold failTransaction
  split <;> rfl

theorem pull_lowers (columns : List Column) (n : Nat) :
    Ensures (·.backlog ≤ n) (converse (pullTurn columns) failStream ({} : Answer) : Action σ Pull)
      (fun _ c => c.backlog < n) (fun _ _ => True) := by
  have fails (e : ClientError) {P : Connection σ → Prop} : Ensures P (failStream e : Action σ Pull)
      (fun _ _ => False) (fun _ _ => True) := ⟨fun _ _ => trivial⟩
  have failing (e : ClientError) : Ensures (·.backlog < n) (failStream e : Action σ Pull)
      (fun _ c => c.backlog < n) (fun _ _ => True) :=
    (fails e).mono (fun _ h => h) (fun _ _ h => h.elim) fun _ _ h => h
  refine converse_lowers (fun answer m action ha => ?_) (fun e => fails e)
    ({} : Answer)
  unfold pullTurn at ha
  cases m with
  | commandComplete | errorResponse => cases ha
  | dataRow values =>
      dsimp only at ha
      split at ha
      · cases ha
      · cases ha
        unfold takeRow
        split
        · exact Ensures.pure fun _ h => h
        · exact failing _
  | rowDescription | emptyQueryResponse =>
      dsimp only at ha
      split at ha
      · cases ha
      · cases ha
        exact failing _
  | readyForQuery status =>
      cases ha
      refine Ensures.bind (Q := fun _ c => c.backlog < n) (Ensures.modify fun _ h => h) fun _ => ?_
      cases answer.error with
      | none => exact Ensures.pure fun _ h => h
      | some report =>
          refine Ensures.bind (Q := fun _ c => c.backlog < n) (Ensures.modify fun c h => ?_)
            fun _ => Ensures.throw fun _ _ => trivial
          rwa [failTransaction_backlog]
  | _ =>
      cases ha
      exact failing _

/-- A row was read from what is at hand. -/
theorem nextRow_lowers (id n : Nat) :
    Ensures (·.backlog ≤ n) (nextRow id : Action σ Pull)
      (fun pull c => ∀ row, pull = .row row → c.backlog < n) (fun _ _ => True) := by
  have limited (columns : List Column) (limit : Option Duration) : Ensures (·.backlog ≤ n)
      (timed limit (converse (pullTurn columns) failStream ({} : Answer)) : Action σ Pull)
      (fun pull c => ∀ row, pull = .row row → c.backlog < n) (fun _ _ => True) :=
    timed_ensures (fun c hc => Nat.le_trans (started_backlog limit c) hc)
      ((pull_lowers columns n).mono (fun _ h => h) (fun _ _ h _ _ => h) fun _ _ h => h)
  unfold nextRow
  refine Ensures.get_bind fun c hc => ?_
  have finished : Ensures (· = c) (pure (.finished none) : Action σ Pull)
      (fun pull c => ∀ row, pull = .row row → c.backlog < n) (fun _ _ => True) :=
    Ensures.pure fun _ _ _ h => by cases h
  cases c.status with
  | ready => exact finished
  | broken | closed => exact Ensures.throw fun _ _ => trivial
  | streaming current columns =>
      dsimp only
      split
      · exact Ensures.of_eq (P := (·.backlog ≤ n)) hc
          ⟨fun c hc => (limited columns c.statementTimeout).run c hc⟩
      · exact finished

end Connection

namespace Cursor

theorem fetch_lowers {s s' : Cursor × Connection σ} {row : Row}
    (h : fetch s = (.ok (some row), s')) : s'.2.backlog < s.2.backlog := by
  obtain ⟨k, c⟩ := s
  unfold fetch at h
  dsimp only at h
  split at h
  · cases h
  · cases h
  · split at h <;> cases h
  · next id hs =>
      split at h
      · next hn =>
          cases h
          exact (Connection.nextRow_lowers id c.backlog).ok (Nat.le_refl _) hn _ rfl
      · cases h
      · cases h

def fetchRound (s : List Row × Cursor × Connection σ) :
    Round (List Row × Cursor × Connection σ)
      (Except ClientError (List Row) × Cursor × Connection σ) :=
  match fetch s.2 with
  | (.ok (some row), t) => .again (row :: s.1, t)
  | (.ok none, t) => .leave (.ok s.1.reverse, t)
  | (.error e, t) => .leave (.error e, t)

theorem fetchOnto_unrolled (n : Nat) (s : List Row × Cursor × Connection σ) :
    fetchOnto s.1 (n + 1) s.2 = (fetchRound s).result fun t => fetchOnto t.1 n t.2 := by
  unfold fetchRound
  rw [fetchOnto, bind_apply]
  rcases fetch s.2 with ⟨e | _ | row, t⟩
  · rfl
  · rfl
  · rfl

theorem fetchRound_lowers {s s' : List Row × Cursor × Connection σ} (h : fetchRound s = .again s') :
    s'.2.2.backlog < s.2.2.backlog := by
  unfold fetchRound at h
  split at h
  · next hf =>
      cases h
      exact fetch_lowers hf
  · cases h
  · cases h

/-- Numbers that are larger than what is at hand are as good as one another. -/
theorem fetchOnto_enough (read : List Row) {n m : Nat} {s : Cursor × Connection σ}
    (hn : s.2.backlog < n) (hm : s.2.backlog < m) : fetchOnto read n s = fetchOnto read m s :=
  Loops.enough (f := fun n s => fetchOnto s.1 n s.2) (s := (read, s)) (·.2.2.backlog)
    fetchRound_lowers fetchOnto_unrolled hn hm

theorem fetchAll_loops (k : Cursor) (c : Connection σ) :
    ∃ n ≤ c.backlog + 1, Loops fetchRound ([], k, c) n (fetchAll (k, c)) :=
  Loops.of_fuel (f := fun n s => fetchOnto s.1 n s.2) (s := ([], k, c)) (·.2.2.backlog)
    fetchRound_lowers fetchOnto_unrolled (Nat.lt_succ_self _)

/-- There are no more rows than what is at hand. -/
theorem fetchOnto_length {read rows : List Row} {n : Nat} {s s' : Cursor × Connection σ}
    (h : fetchOnto read n s = (.ok rows, s')) : rows.length ≤ read.length + s.2.backlog := by
  induction n generalizing read s with
  | zero =>
      cases h
      simp
  | succ n ih =>
      rw [fetchOnto, bind_apply] at h
      rcases hf : fetch s with ⟨e | _ | row, t⟩
      · rw [hf] at h
        cases h
      · rw [hf] at h
        cases h
        simp
      · rw [hf] at h
        have hlow := fetch_lowers hf
        have hlen := ih h
        rw [List.length_cons] at hlen
        omega

theorem fetchAll_eq {n : Nat} {s : Cursor × Connection σ} (hn : s.2.backlog < n) :
    fetchAll s = fetchMany n s := by
  have he : fetchAll s = fetchMany (s.2.backlog + 1) s := rfl
  rw [he]
  exact fetchOnto_enough [] (by omega) hn

end Cursor

end SqlWire
