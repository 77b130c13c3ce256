import SqlWire.Proofs.Client.Results

/-!
# Reading the rows of a result

A fetch from an open result reads up to the next row or to the end of the answer; the first
message that is no aside is the row, or it ends the result. Every other operation leaves the
result as it is or gives it up.
-/

namespace SqlWire

def BackendMessage.endsResult : BackendMessage → Bool
  | commandComplete _ | errorResponse _ | readyForQuery _ => true
  | _ => false

def Row.ofMessage? (columns : List Column) : BackendMessage → Option Row
  | .dataRow values =>
    some ⟨columns, columns.zipWith (fun column raw => Value.ofResult column.type raw) values⟩
  | _ => none

/-- The rows up to the first message that ends them. -/
def resultRows (columns : List Column) (ms : List BackendMessage) : List Row :=
  (ms.takeWhile (!·.endsResult)).filterMap (Row.ofMessage? columns)

section

variable {columns : List Column} {ms ns : List BackendMessage}

theorem resultRows_append (h : ∀ m ∈ ms, m.endsResult = false) :
    resultRows columns (ms ++ ns) = resultRows columns ms ++ resultRows columns ns := by
  have hall : ∀ m ∈ ms, (!m.endsResult) = true := by simpa using h
  have hms : (ms ++ []).takeWhile (!·.endsResult) = ms ++ [].takeWhile (!·.endsResult) :=
    List.takeWhile_append_of_pos hall
  rw [List.takeWhile_nil, List.append_nil] at hms
  unfold resultRows
  rw [List.takeWhile_append_of_pos hall, List.filterMap_append, hms]

theorem resultRows_asides (h : ∀ m ∈ ms, m.isAside = true) : resultRows columns ms = [] := by
  unfold resultRows
  refine List.filterMap_eq_nil_iff.2 fun m hm => ?_
  have ha := h m (List.takeWhile_subset _ hm)
  cases m <;> first | rfl | cases ha

theorem not_endsResult_of_aside {m : BackendMessage} (h : m.isAside = true) :
    m.endsResult = false := by
  cases m <;> first | rfl | cases h

end

/-- The rows are the first of those that follow `start` on the stream; they are all of them if
the server's name for the statement is known. -/
def RowsOf (start : Bytes) (columns : List Column) (tag : Option String) (rows : List Row)
    (heard : Bytes) : Prop :=
  ∃ w ms rest, heard = start ++ w ++ rest ∧ Spells w ms ∧ rows <+: resultRows columns ms ∧
    (tag.isSome = true → rows = resultRows columns ms ∧ ∃ m ∈ ms, m.endsResult = true)

theorem RowsOf.longer {start heard heard' : Bytes} {columns : List Column} {tag : Option String}
    {rows : List Row} (h : RowsOf start columns tag rows heard) (hp : heard <+: heard') :
    RowsOf start columns tag rows heard' := by
  obtain ⟨w, ms, rest, rfl, hw⟩ := h
  obtain ⟨more, rfl⟩ := hp
  exact ⟨w, ms, rest ++ more, by simp, hw⟩

theorem RowsOf.fewer {start heard : Bytes} {columns : List Column} {tag : Option String}
    {rows rows' : List Row} (h : RowsOf start columns tag rows heard) (hp : rows' <+: rows) :
    RowsOf start columns none rows' heard := by
  obtain ⟨w, ms, rest, hh, hw, hr, -⟩ := h
  exact ⟨w, ms, rest, hh, hw, hp.trans hr, by simp⟩

namespace Connection

variable {σ : Type} [Channel σ] {c c' : Connection (Traced σ)} {ms : List BackendMessage}

theorem Reads.heard_prefix (h : Reads c ms c') : c.heard <+: c'.heard := by
  obtain ⟨-, w, _, hd, -⟩ := h
  exact ⟨w, (Traced.heard_delivers hd).symm⟩

theorem Breaks.heard_prefix (h : Breaks c c') : c.heard <+: c'.heard := by
  obtain ⟨c'', -, ⟨w, hd⟩, rfl⟩ := h
  refine ⟨w, (Traced.heard_delivers hd).symm.trans ?_⟩
  unfold markBroken heard
  split <;> rfl

/-- What was read is what the stream goes on with. -/
theorem Reads.spelled {start : Bytes} (h : Reads c ms c') (hc : c.heard = start ++ c.buffer) :
    ∃ w, Spells w ms ∧ c'.heard = start ++ w ++ c'.buffer := by
  obtain ⟨-, w, read, hd, hr, hs⟩ := h
  refine ⟨read, hs, ?_⟩
  have hh : c'.heard = c.heard ++ w := Traced.heard_delivers hd
  rw [hh, hc, List.append_assoc, hr, List.append_assoc]

theorem markBroken_streaming (c : Connection (Traced σ)) : c.markBroken.isStreaming = false := by
  unfold markBroken
  split
  · rfl
  · next h => cases hs : c.status <;> simp_all [isUsable, isStreaming]

theorem Breaks.stopped (h : Breaks c c') : c'.isStreaming = false := by
  obtain ⟨c'', -, -, rfl⟩ := h
  exact markBroken_streaming c''

omit [Channel σ] in
theorem not_streaming (h : c.isStreaming = false) (id : Nat) (columns : List Column) :
    c.status ≠ .streaming id columns := by
  intro hs
  simp [isStreaming, hs] at h

def Spelled (c : Connection (Traced σ)) : Prop :=
  c.isUsable = true → ∃ w ms, Spells w ms ∧ c.heard = w ++ c.buffer

theorem Spelled.reads (h : Spelled c) (hu : c.isUsable = true) (hr : Reads c ms c') :
    ∃ w ms₀, Spells w (ms₀ ++ ms) ∧ c'.heard = w ++ c'.buffer := by
  obtain ⟨w, ms₀, hw, hh⟩ := h hu
  obtain ⟨read, hs, hread⟩ := hr.spelled hh
  exact ⟨w ++ read, ms₀, hw.append hs, hread⟩

theorem stable_spelled : Stable (fun _ => True) (Spelled (σ := σ)) where
  same h hs := by
    intro hu
    rw [isUsable_of_status hs.status] at hu
    rw [hs.heard, hs.buffer]
    exact h hu
  answered h hu hr := by
    obtain ⟨w, ms₀, hw, hh⟩ := h.reads hu hr
    exact fun _ => ⟨w, _, hw, hh⟩
  opened h hu hr := by
    obtain ⟨w, ms₀, hw, hh⟩ := h.reads hu hr
    exact fun _ => ⟨w, _, hw, hh⟩
  pulling _ h hs hr := by
    obtain ⟨w, ms₀, hw, hh⟩ := h.reads (by simp [isUsable, hs]) hr
    exact fun _ => ⟨w, _, hw, hh⟩
  broken _ hb := by
    obtain ⟨c'', -, -, rfl⟩ := hb
    intro hu
    unfold markBroken at hu
    split at hu
    · cases hu
    · next hn => exact absurd hu hn
  closed _ := fun hu => by cases hu

/-- What became of a connection while one of its results was left alone. -/
structure Aloof (id : Nat) (c c' : Connection (Traced σ)) : Prop where
  heard : c.heard <+: c'.heard
  nextResult : c.nextResult ≤ c'.nextResult
  still : ∀ columns, c'.status = .streaming id columns →
    c.status = .streaming id columns ∧ c'.heard = c.heard ∧ c'.buffer = c.buffer

omit [Channel σ] in
theorem Aloof.refl (id : Nat) (c : Connection (Traced σ)) : Aloof id c c :=
  ⟨List.prefix_refl _, Nat.le_refl _, fun _ h => ⟨h, rfl, rfl⟩⟩

theorem stable_aloof {id : Nat} (hid : id < c.nextResult) : Stable (· ≠ id) (Aloof id c) where
  same h hs := by
    refine ⟨hs.heard ▸ h.heard, hs.nextResult ▸ h.nextResult, fun columns hc => ?_⟩
    rw [hs.status] at hc
    rw [hs.heard, hs.buffer]
    exact h.still columns hc
  answered h _ hr :=
    ⟨h.heard.trans hr.heard_prefix, hr.frame.nextResult ▸ h.nextResult, fun _ hs => by cases hs⟩
  opened {_ c' _ _} h _ hr := by
    have hn : c.nextResult ≤ c'.nextResult := hr.frame.nextResult ▸ h.nextResult
    refine ⟨h.heard.trans hr.heard_prefix, Nat.le_succ_of_le hn, fun columns hs => ?_⟩
    simp only [ConnectionStatus.streaming.injEq] at hs
    omega
  pulling hne h hs hr := by
    refine ⟨h.heard.trans hr.heard_prefix, hr.frame.nextResult ▸ h.nextResult,
      fun columns hs' => ?_⟩
    rw [hr.frame.status, hs] at hs'
    simp only [ConnectionStatus.streaming.injEq] at hs'
    exact absurd hs'.1 hne
  broken h hb := by
    refine ⟨h.heard.trans hb.heard_prefix, ?_, fun columns hs => ?_⟩
    · obtain ⟨c'', hf, -, rfl⟩ := hb
      unfold markBroken
      split
      · exact hf.nextResult ▸ h.nextResult
      · exact hf.nextResult ▸ h.nextResult
    · exact absurd hs (not_streaming hb.stopped _ _)
  closed h := ⟨h.heard, h.nextResult, fun _ hs => by cases hs⟩

/-! ## Reading from a result -/

/-- What a fetch from an open result came to: the next row, or the end of the answer. -/
inductive Pulled (columns : List Column) (c : Connection (Traced σ)) :
    Pull → Connection (Traced σ) → Prop
  | row {c₁ c₂ c' : Connection (Traced σ)} {asides : List BackendMessage}
      {values : List (Option Bytes)} {row : Row} (hc : Same c c₁)
      (ha : ∀ a ∈ asides, a.isAside = true) (hr : Reads c₁ (asides ++ [.dataRow values]) c₂)
      (hs : Same c₂ c') (hrow : Row.ofMessage? columns (.dataRow values) = some row) :
      Pulled columns c (.row row) c'
  | finished {c₁ c₂ c' : Connection (Traced σ)} {asides rest : List BackendMessage}
      {m : BackendMessage} (hc : Same c c₁) (ha : ∀ a ∈ asides, a.isAside = true)
      (hm : m.endsResult = true) (hr : Reads c₁ (asides ++ m :: rest) c₂)
      (hs : c'.status = .ready) (hb : c'.buffer = c₂.buffer) (hh : c'.heard = c₂.heard)
      (tag : Option String) : Pulled columns c (.finished tag) c'

def Stopped (c c' : Connection (Traced σ)) : Prop :=
  c.heard <+: c'.heard ∧ c'.isStreaming = false

omit [Channel σ] in
theorem Stopped.same {c₁ c₂ : Connection (Traced σ)} (h : Stopped c₁ c₂) (hc : Same c c₁)
    (hs : Same c₂ c') : Stopped c c' := by
  refine ⟨?_, ?_⟩
  · rw [← hc.heard, hs.heard]
    exact h.1
  · unfold isStreaming
    rw [hs.status]
    exact h.2

theorem Pulled.same {columns : List Column} {pull : Pull} {c₁ c₂ : Connection (Traced σ)}
    (h : Pulled columns c₁ pull c₂) (hc : Same c c₁) (hs : Same c₂ c') :
    Pulled columns c pull c' := by
  cases h with
  | row hc' ha hr hs' hrow => exact .row (hc.trans hc') ha hr (hs'.trans hs) hrow
  | finished hc' ha hm hr hs' hb hh tag =>
      exact .finished (hc.trans hc') ha hm hr (hs.status.trans hs') (hs.buffer.trans hb)
        (hs.heard.trans hh) tag

def PastEnd (ms : List BackendMessage) : Prop :=
  ∃ asides m rest, ms = asides ++ m :: rest ∧ (∀ a ∈ asides, a.isAside = true) ∧
    m.endsResult = true

def Answer.ended (answer : Answer) : Bool :=
  answer.tag.isSome || answer.error.isSome

/-- What was read by a reader that knows so much of the answer. -/
inductive Passed (answer : Answer) (ms : List BackendMessage) : Prop
  | within (hn : Answer.ended answer = false) (h : ∀ a ∈ ms, a.isAside = true)
  | past (he : Answer.ended answer = true) (h : PastEnd ms)

theorem PastEnd.append (h : PastEnd ms) (ns : List BackendMessage) : PastEnd (ms ++ ns) := by
  obtain ⟨asides, m, rest, rfl, ha, hm⟩ := h
  exact ⟨asides, m, rest ++ ns, by simp, ha, hm⟩

theorem Passed.ended {answer : Answer} {ns : List BackendMessage} {m : BackendMessage}
    (h : Passed answer ms) (hm : Through m ns) (hend : m.endsResult = true) :
    PastEnd (ms ++ ns) := by
  obtain ⟨asides, rfl, hall, -⟩ := hm
  cases h with
  | within hn h =>
      exact ⟨ms ++ asides, m, [], by simp, List.forall_mem_append.2 ⟨h, hall⟩, hend⟩
  | past he h => exact h.append _

/-- Behind the end of the result everything is passed over. -/
theorem Passed.goes_on {answer : Answer} (h : Passed answer ms)
    (he : Answer.ended answer = true) (ns : List BackendMessage) : Passed answer (ms ++ ns) := by
  cases h with
  | within hn =>
      rw [he] at hn
      cases hn
  | past he h => exact .past he (h.append ns)

theorem Passed.front {answer : Answer} {ns : List BackendMessage} {m : BackendMessage}
    (h : Passed answer ms) (hm : Through m ns) (hn : Answer.ended answer = false) :
    ∃ asides, ms ++ ns = asides ++ [m] ∧ ∀ a ∈ asides, a.isAside = true := by
  obtain ⟨asides, rfl, hall, -⟩ := hm
  cases h with
  | past he =>
      rw [hn] at he
      cases he
  | within hn h =>
      exact ⟨ms ++ asides, by simp, List.forall_mem_append.2 ⟨h, hall⟩⟩

theorem fails_stopped (e : ClientError) {β : Type} {Q : β → Connection (Traced σ) → Prop} :
    Ensures (Reads c ms) (failStream e) Q (fun _ => Stopped c) := by
  constructor
  intro c' hr
  have hb := hr.gives_up
  exact ⟨hb.heard_prefix, hb.stopped⟩

theorem takeRow_pulled {columns : List Column} {asides : List BackendMessage}
    (ha : ∀ a ∈ asides, a.isAside = true) (values : List (Option Bytes)) :
    Ensures (Reads c (asides ++ [.dataRow values])) (takeRow columns values) (Pulled columns c)
      (fun _ => Stopped c) := by
  unfold takeRow
  split
  · exact Ensures.pure fun c' hr => .row ⟨rfl, rfl, rfl, rfl⟩ ha hr ⟨rfl, rfl, rfl, rfl⟩ rfl
  · exact fails_stopped _

theorem done_pulled {columns : List Column} (h : PastEnd ms) (status : TransactionStatus)
    (error : Option Diagnostic) (tag : Option String) :
    Ensures (Reads c ms)
      (do
        modify (applyReady status)
        match error with
        | some report =>
          modify failTransaction
          throw (.ofReport report)
        | none => return .finished tag : Action (Traced σ) Pull)
      (Pulled columns c) (fun _ => Stopped c) := by
  obtain ⟨asides, m, rest, rfl, ha, hm⟩ := h
  refine Ensures.bind (Q := fun _ c'' => ∃ c', Reads c (asides ++ m :: rest) c' ∧
    c'' = c'.applyReady status) (Ensures.modify fun c' hr => ⟨c', hr, rfl⟩) fun _ => ?_
  cases error with
  | none =>
      refine Ensures.pure ?_
      intro _ h
      obtain ⟨c', hr, rfl⟩ := h
      have hready : (c'.applyReady status).status = .ready := rfl
      exact .finished ⟨rfl, rfl, rfl, rfl⟩ ha hm hr hready rfl rfl tag
  | some report =>
      refine Ensures.bind (Q := fun _ => Stopped c) (Ensures.modify ?_) fun _ =>
        Ensures.throw fun _ h => h
      intro _ h
      obtain ⟨c', hr, rfl⟩ := h
      unfold failTransaction
      split
      · exact ⟨hr.heard_prefix, rfl⟩
      · exact ⟨hr.heard_prefix, rfl⟩

/-- A fetch from an open result reads up to the next row or to the end of the answer. -/
theorem pull_reads (columns : List Column) :
    Ensures (· = c) (converse (pullTurn columns) failStream {}) (Pulled columns c)
      (fun _ => Stopped c) := by
  refine Ensures.of_eq (Reads.refl c) (converse_reads (I := Passed) ?_ (fun e => ⟨?_⟩)
    (.within rfl (by simp)))
  · intro answer ms m ns h hm
    have skipped (he : Answer.ended answer = true) : Passed answer (ms ++ ns) := h.goes_on he ns
    cases m with
    | commandComplete tag =>
        refine .past ?_ (h.ended hm rfl)
        cases answer.tag <;> simp [Answer.ended]
    | errorResponse report => exact .past (by simp [Answer.ended]) (h.ended hm rfl)
    | readyForQuery status => exact done_pulled (h.ended hm rfl) status answer.error answer.tag
    | dataRow values =>
        cases he : Answer.ended answer with
        | true =>
            have ht := he
            unfold Answer.ended at ht
            simp only [pullTurn, ht]
            exact skipped he
        | false =>
            obtain ⟨asides, hms, ha⟩ := h.front hm he
            unfold Answer.ended at he
            simp only [pullTurn, he]
            rw [hms]
            exact takeRow_pulled ha values
    | rowDescription | emptyQueryResponse =>
        cases he : Answer.ended answer with
        | true =>
            have ht := he
            unfold Answer.ended at ht
            simp only [pullTurn, ht]
            exact skipped he
        | false =>
            unfold Answer.ended at he
            simp only [pullTurn, he]
            exact fails_stopped _
    | _ => exact fails_stopped _
  · intro c' hb
    have hs : c'.markBroken.isStreaming = false := markBroken_streaming c'
    refine ⟨?_, hs⟩
    refine hb.heard_prefix.trans ?_
    change c'.heard <+: c'.markBroken.heard
    unfold markBroken
    split
    · exact List.prefix_refl _
    · exact List.prefix_refl _

theorem nextRow_pulls {id : Nat} {columns : List Column} (h : c.status = .streaming id columns) :
    Ensures (· = c) (nextRow id) (Pulled columns c) (fun _ => Stopped c) := by
  have pulls : Ensures (Same c) (converse (pullTurn columns) failStream {}) (Pulled columns c)
      (fun _ => Stopped c) := by
    refine Ensures.of_each fun c₁ hc => ?_
    exact (pull_reads columns).mono (fun _ h => h)
      (fun _ _ h => h.same hc ⟨rfl, rfl, rfl, rfl⟩) fun _ _ h => h.same hc ⟨rfl, rfl, rfl, rfl⟩
  have ht := Stable.timed_keeps (fun h hs => h.trans hs)
    (fun _ _ _ h hs => h.same ⟨rfl, rfl, rfl, rfl⟩ hs)
    (fun _ _ _ h hs => h.same ⟨rfl, rfl, rfl, rfl⟩ hs) pulls c.statementTimeout
  unfold nextRow
  refine Ensures.get_bind ?_
  intro d hd
  subst hd
  rw [h]
  dsimp only
  rw [if_pos rfl]
  refine ⟨?_⟩
  intro d hd
  subst hd
  exact ht.run d ⟨rfl, rfl, rfl, rfl⟩

omit [Channel σ] in
theorem nextRow_gone {id : Nat} [Channel σ] (h : ∀ columns, c.status ≠ .streaming id columns) :
    nextRow id c = (.ok (.finished none), c) ∨ nextRow id c = (.error .connectionClosed, c) := by
  unfold nextRow
  rw [bind_apply, get_apply]
  dsimp only
  cases hs : c.status with
  | streaming current columns =>
      have hne : current ≠ id := by
        intro h
        subst h
        exact h columns hs
      dsimp only
      rw [if_neg hne]
      exact .inl rfl
  | ready => exact .inl rfl
  | broken | closed => exact .inr rfl

end Connection

end SqlWire
