import Mathlib.Data.List.TakeDrop
import SqlWire.Proofs.Wire.Messages

/-!
# What the wire can carry

The bytes of a message say all of it if no text of it has a NUL in it, its list is no longer than
a signed 16-bit count, its body fits a frame, and it is not one of the few messages whose fields
read as another message. These are `BackendMessage.Carried` and `FrontendMessage.Carried`. A
message has a form as bytes at all exactly if its texts have no NUL and its body fits a frame.
-/

namespace SqlWire

/-- What has to hold of the texts of a message, the number of entries that is written into it and
its body. -/
structure Fits (texts : List String) (entries : Nat) (body : Except WireError Bytes) : Prop where
  noNul : ∀ text ∈ texts, (0 : UInt8) ∉ Bytes.ofText text
  counted : entries ≤ 32767
  bounded : ∀ raw, body = .ok raw → raw.length ≤ Frame.maxBody

theorem Fits.of_body {texts : List String} {entries : Nat} {body : Except WireError Bytes}
    {raw : Bytes} (hn : ∀ text ∈ texts, (0 : UInt8) ∉ Bytes.ofText text) (hc : entries ≤ 32767)
    (hb : body = .ok raw) (hl : raw.length ≤ Frame.maxBody) : Fits texts entries body := by
  refine ⟨hn, hc, ?_⟩
  intro raw' hb'
  rw [hb] at hb'
  cases hb'
  exact hl

/-- A count says how long a list is only as far as a signed 16-bit number goes. -/
theorem Bytes.le_announced_iff (n : Nat) : n ≤ announced n ↔ n ≤ 32767 := by
  simp only [announced, Int16.toInt_ofNat', Int.bmod_def, Int16.size]
  split <;> omega

/-! ## Which bodies there are -/

theorem exists_ok_of_bind {ε α β : Type} {x : Except ε α} {f : α → Except ε β} :
    (∃ b, (x >>= f) = .ok b) ↔ ∃ a, x = .ok a ∧ ∃ b, f a = .ok b := by
  constructor
  · intro h
    obtain ⟨b, h⟩ := h
    obtain ⟨a, ha, hf⟩ := ok_of_bind h
    exact ⟨a, ha, b, hf⟩
  · intro h
    obtain ⟨a, rfl, h⟩ := h
    exact h

theorem exists_ok_map {ε α β : Type} {x : Except ε α} {f : α → β} :
    (∃ b, f <$> x = .ok b) ↔ ∃ a, x = .ok a := by
  cases x <;> simp [Functor.map, Except.map]

theorem exists_ok_mapM {ε α β : Type} {f : α → Except ε β} {as : List α} :
    (∃ bs, as.mapM f = .ok bs) ↔ ∀ a ∈ as, ∃ b, f a = .ok b := by
  induction as with
  | nil => simp [pure, Except.pure]
  | cons a as ih =>
      rw [List.mapM_cons, List.forall_mem_cons, ← ih]
      simp [exists_ok_of_bind, exists_ok_map]

theorem Bytes.ofTerminated_eq_ok {text : String} {raw : Bytes} :
    ofTerminated text = .ok raw ↔ (0 : UInt8) ∉ ofText text ∧ raw = ofText text ++ [0] := by
  constructor
  · exact terminated_eq_ok
  · intro h
    simp [ofTerminated, terminated, h.1, h.2]

/-- A text has a terminated form exactly if it has no NUL of its own. -/
theorem Bytes.exists_ofTerminated {text : String} :
    (∃ raw, ofTerminated text = .ok raw) ↔ (0 : UInt8) ∉ ofText text := by
  simp [ofTerminated_eq_ok]

def Diagnostic.texts (report : Diagnostic) : List String :=
  report.severity :: report.code :: report.message :: report.detail.toList

theorem Diagnostic.exists_encode (report : Diagnostic) :
    (∃ raw, report.encode = .ok raw) ↔ ∀ text ∈ report.texts, (0 : UInt8) ∉ Bytes.ofText text := by
  obtain ⟨severity, code, message, detail⟩ := report
  cases detail with
  | none =>
      simp [encode, texts, exists_ok_of_bind, exists_ok_map, Bytes.exists_ofTerminated]
  | some text =>
      simp [encode, texts, exists_ok_of_bind, exists_ok_map, Bytes.exists_ofTerminated]

/-- A body is framed exactly if a frame has room for it. -/
theorem Frame.exists_tagged {tag : UInt8} {body : Bytes} :
    (∃ bytes, tagged tag body = .ok bytes) ↔ body.length ≤ maxBody := by
  unfold tagged untagged
  split <;> simp_all [Except.map]

theorem Frame.exists_untagged {body : Bytes} :
    (∃ bytes, untagged body = .ok bytes) ↔ body.length ≤ maxBody := by
  unfold untagged
  split <;> simp_all

/-! ## Messages of the server -/

namespace BackendMessage

def texts : BackendMessage → List String
  | parameterStatus name value => [name, value]
  | rowDescription fields => fields.map FieldDescription.name
  | commandComplete tag => [tag]
  | errorResponse report | noticeResponse report => report.texts
  | _ => []

/-- The bytes of the message say all of it. -/
def Carried (m : BackendMessage) : Prop :=
  m.Plain ∧ Fits m.texts m.entries m.body

theorem exists_body (m : BackendMessage) :
    (∃ raw, m.body = .ok raw) ↔ ∀ text ∈ m.texts, (0 : UInt8) ∉ Bytes.ofText text := by
  cases m <;> simp [body, texts, exists_ok_of_bind, exists_ok_map, exists_ok_mapM,
    FieldDescription.encode, Bytes.exists_ofTerminated, Diagnostic.exists_encode]

theorem received_eq_iff (m : BackendMessage) : m.received = m ↔ m.entries ≤ 32767 := by
  cases m <;> simp [received, entries, Bytes.le_announced_iff]

/-- A message that is carried has a form as bytes. -/
theorem Carried.encodes {m : BackendMessage} (h : m.Carried) :
    ∃ raw bytes, m.body = .ok raw ∧ raw.length ≤ Frame.maxBody ∧ m.encode = .ok bytes ∧
      Frame.tagged m.tag.toUInt8 raw = .ok bytes := by
  obtain ⟨-, hf⟩ := h
  obtain ⟨raw, hb⟩ := m.exists_body.2 hf.noNul
  have hl := hf.bounded raw hb
  obtain ⟨bytes, ht⟩ := Frame.exists_tagged.2 hl
  refine ⟨raw, bytes, hb, hl, ?_, ht⟩
  unfold encode
  rw [hb]
  exact ht

/-- The body of a message that is carried is read to its end. -/
theorem Carried.reader_gives {m : BackendMessage} (h : m.Carried) {raw : Bytes}
    (hb : m.body = .ok raw) : (reader m.tag.toUInt8).Gives raw m := by
  obtain ⟨hp, hf⟩ := h
  obtain ⟨left, hr, hn⟩ := reader_leaves hp hb (hf.bounded raw hb)
  rw [(received_eq_iff m).2 hf.counted] at hr
  rw [hn ((Bytes.le_announced_iff _).2 hf.counted)] at hr
  exact hr.gives

end BackendMessage

/-! ## Messages of the client -/

namespace FrontendMessage

def texts : FrontendMessage → List String
  | startup _ params => params.flatMap fun param => [param.1, param.2]
  | password text => [text]
  | query sql => [sql]
  | parse name sql _ => [name, sql]
  | bind portal statement _ => [portal, statement]
  | describe _ name => [name]
  | execute portal _ => [portal]
  | _ => []

def entries : FrontendMessage → Nat
  | parse _ _ types => types.length
  | bind _ _ params => params.length
  | _ => 0

/-- A startup message asks for version 3.0, and none of its parameters is without a name: the
empty name ends them. -/
def Plain : FrontendMessage → Prop
  | startup version params => version = Protocol.version3 ∧ ∀ param ∈ params, param.1 ≠ ""
  | _ => True

def Carried (m : FrontendMessage) : Prop :=
  m.Plain ∧ Fits m.texts m.entries m.body

theorem exists_body (m : FrontendMessage) :
    (∃ raw, m.body = .ok raw) ↔ ∀ text ∈ m.texts, (0 : UInt8) ∉ Bytes.ofText text := by
  cases m with
  | startup version params =>
      rw [texts, List.forall_mem_flatMap]
      simp [body, exists_ok_map, exists_ok_mapM, encodeParam, exists_ok_of_bind,
        Bytes.exists_ofTerminated]
  | _ =>
      simp [body, texts, exists_ok_of_bind, exists_ok_map, Bytes.exists_ofTerminated]

/-- A message that is carried has a form as bytes. -/
theorem Carried.encodes {m : FrontendMessage} (h : m.Carried) :
    ∃ raw bytes, m.body = .ok raw ∧ raw.length ≤ Frame.maxBody ∧ m.encode = .ok bytes ∧
      (match m.tag? with
        | none => Frame.untagged raw
        | some tag => Frame.tagged tag.toUInt8 raw) = .ok bytes := by
  obtain ⟨-, hf⟩ := h
  obtain ⟨raw, hb⟩ := m.exists_body.2 hf.noNul
  have hl := hf.bounded raw hb
  have framed : ∃ bytes, (match m.tag? with
      | none => Frame.untagged raw
      | some tag => Frame.tagged tag.toUInt8 raw) = .ok bytes := by
    cases m.tag? with
    | none => exact Frame.exists_untagged.2 hl
    | some tag => exact Frame.exists_tagged.2 hl
  obtain ⟨bytes, framed⟩ := framed
  refine ⟨raw, bytes, hb, hl, ?_, framed⟩
  unfold encode
  rw [hb]
  exact framed

/-- The body of a tagged message that is carried is read to its end. -/
theorem Carried.reader_gives {m : FrontendMessage} (h : m.Carried) {tag : Char}
    (ht : m.tag? = some tag) {raw : Bytes} (hb : m.body = .ok raw) :
    (reader tag.toUInt8).Gives raw m := by
  obtain ⟨-, hf⟩ := h
  have hl := hf.bounded raw hb
  have hn := (Bytes.le_announced_iff _).2 hf.counted
  cases m with
  | sslRequest => cases ht
  | startup version params => cases ht
  | password text => cases ht; exact password_gives hb
  | query sql => cases ht; exact query_gives hb
  | parse name sql types =>
      cases ht
      rw [entries] at hn
      have hp := parse_leaves hb
      rw [List.take_of_length_le hn, List.drop_eq_nil_of_le hn] at hp
      exact hp.gives
  | bind portal statement params =>
      cases ht
      exact bind_gives (Nat.le_antisymm (Bytes.announced_le _) hn) hb hl
  | describe target name => cases ht; exact describe_gives hb
  | execute portal maxRows => cases ht; exact execute_gives hb
  | sync => cases ht; cases hb; exact fun _ => rfl
  | flush => cases ht; cases hb; exact fun _ => rfl
  | terminate => cases ht; cases hb; exact fun _ => rfl

end FrontendMessage

end SqlWire
