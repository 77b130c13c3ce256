import SqlWire.Proofs.Wire.Stream

/-!
# The grammar of a server's answers

`Phase` is how far a server has come with what it says to its client, from the greeting to the
message that says it is ready. An answer of any kind is a list of messages that leads from its
first phase to `Phase.ready`.
-/

namespace SqlWire

/-- How far a server has come with what it says. -/
inductive Phase where
  /-- It is letting the client in, and may still ask for a password. -/
  | greeting (mayAsk : Bool)
  /-- It waits for a password. -/
  | asked
  /-- It has turned the client away. -/
  | refused
  /-- Nothing was said yet about the result of a bound statement. -/
  | opening
  /-- No result is begun. -/
  | between
  /-- The rows of a result are being sent, each with so many values. -/
  | rows (width : Nat)
  /-- An error was reported. -/
  | failed
  | ready (status : TransactionStatus)
  deriving DecidableEq, Repr

namespace Phase

def begin : BackendMessage → Option Phase
  | .emptyQueryResponse | .commandComplete _ => some between
  | .rowDescription fields => some (rows fields.length)
  | .errorResponse _ => some failed
  | .readyForQuery status => some (ready status)
  | _ => none

/-- Where a message leads. No server that reported an error is inside a healthy transaction. -/
def next : Phase → BackendMessage → Option Phase
  | greeting mayAsk, .authenticationOk | greeting mayAsk, .parameterStatus ..
  | greeting mayAsk, .backendKeyData .. => some (greeting mayAsk)
  | greeting mayAsk, .authenticationCleartextPassword => if mayAsk then some asked else none
  | greeting _, .errorResponse _ => some refused
  | greeting _, .readyForQuery status => if status = .idle then some (ready status) else none
  | opening, .parseComplete | opening, .bindComplete | opening, .noData => some opening
  | opening, .noticeResponse _ => some opening
  | opening, m => begin m
  | between, .noticeResponse _ => some between
  | between, m => begin m
  | rows width, .dataRow values => if values.length = width then some (rows width) else none
  | rows _, .commandComplete _ => some between
  | rows _, .errorResponse _ => some failed
  | failed, .readyForQuery status => if status = .inTransaction then none else some (ready status)
  | _, _ => none

def after (p : Phase) (ms : List BackendMessage) : Option Phase :=
  ms.foldlM next p

/-- An error can be reported here, and no result is promised beyond it. -/
def Reports (p : Phase) : Prop :=
  ∀ report, p.next (.errorResponse report) = some failed

/-- It is the server who has to say something. -/
def Open : Phase → Prop
  | asked | ready _ => False
  | _ => True

theorem after_cons (p : Phase) (m : BackendMessage) (ms : List BackendMessage) :
    p.after (m :: ms) = (p.next m).bind (after · ms) := rfl

theorem after_singleton (p : Phase) (m : BackendMessage) : p.after [m] = p.next m := by
  rw [after_cons]
  cases p.next m <;> rfl

theorem after_append (p : Phase) (ms ns : List BackendMessage) :
    p.after (ms ++ ns) = (p.after ms).bind (after · ns) := by
  simp only [after, List.foldlM_append]
  rfl

theorem after_trans {p q r : Phase} {ms ns : List BackendMessage} (h : p.after ms = some q)
    (h' : q.after ns = some r) : p.after (ms ++ ns) = some r := by
  rw [after_append, h]
  exact h'

theorem reports_opening : Reports opening := fun _ => rfl

theorem reports_between : Reports between := fun _ => rfl

theorem reports_rows (width : Nat) : Reports (rows width) := fun _ => rfl

theorem Reports.open {p : Phase} (h : p.Reports) : p.Open := by
  cases p with
  | asked | ready => cases h (.error "" "")
  | _ => trivial

theorem after_ready {status : TransactionStatus} {ms : List BackendMessage} {q : Phase}
    (h : (ready status).after ms = some q) : ms = [] := by
  cases ms with
  | nil => rfl
  | cons m ms => cases h

end Phase

theorem Phase.next_aside {p q : Phase} {m : BackendMessage} (ha : m.isAside = true)
    (h : p.next m = some q) : q = p := by
  cases m <;> cases ha <;> cases p <;> cases h <;> rfl

namespace Phase

def Answering : Phase → Prop
  | opening | between | rows _ | failed => True
  | _ => False

inductive Advance : Phase → BackendMessage → Phase → Prop
  | prepared {m : BackendMessage} (hm : m = .parseComplete ∨ m = .bindComplete ∨ m = .noData) :
      Advance opening m opening
  | empty {p : Phase} (hp : p = opening ∨ p = between) : Advance p .emptyQueryResponse between
  | completed {p : Phase} (tag : String) (hp : p ≠ failed) :
      Advance p (.commandComplete tag) between
  | described {p : Phase} (fields : List FieldDescription) (hp : p = opening ∨ p = between) :
      Advance p (.rowDescription fields) (rows fields.length)
  | row {width : Nat} (values : List (Option Bytes)) (hv : values.length = width) :
      Advance (rows width) (.dataRow values) (rows width)
  | reported {p : Phase} (report : Diagnostic) (hp : p ≠ failed) :
      Advance p (.errorResponse report) failed
  | done {p : Phase} (status : TransactionStatus) (hp : p = failed → status ≠ .inTransaction) :
      Advance p (.readyForQuery status) (ready status)

theorem Answering.open {p : Phase} (hp : p.Answering) : p.Open := by
  cases p with
  | asked | ready => cases hp
  | _ => trivial

theorem begin_advance {p q : Phase} {m : BackendMessage} (hp : p = opening ∨ p = between)
    (h : begin m = some q) : Advance p m q := by
  have hf : p ≠ failed := by rcases hp with rfl | rfl <;> simp
  cases m with
  | emptyQueryResponse => cases h; exact .empty hp
  | commandComplete tag => cases h; exact .completed tag hf
  | rowDescription fields => cases h; exact .described fields hp
  | errorResponse report => cases h; exact .reported report hf
  | readyForQuery status => cases h; exact .done status fun he => absurd he hf
  | _ => cases h

theorem advance {p q : Phase} {m : BackendMessage} (hp : p.Answering) (ha : m.isAside = false)
    (h : p.next m = some q) : Advance p m q := by
  cases p with
  | greeting | asked | refused | ready => cases hp
  | opening =>
      cases m with
      | parseComplete => cases h; exact .prepared (.inl rfl)
      | bindComplete => cases h; exact .prepared (.inr (.inl rfl))
      | noData => cases h; exact .prepared (.inr (.inr rfl))
      | noticeResponse => cases ha
      | _ => exact begin_advance (.inl rfl) h
  | between =>
      cases m with
      | noticeResponse => cases ha
      | _ => exact begin_advance (.inr rfl) h
  | rows width =>
      cases m with
      | dataRow values =>
          have hv : values.length = width ∧ rows width = q := by simpa [next] using h
          obtain ⟨hv, rfl⟩ := hv
          exact .row values hv
      | commandComplete tag => cases h; exact .completed tag (by simp)
      | errorResponse report => cases h; exact .reported report (by simp)
      | _ => cases h
  | failed =>
      cases m with
      | readyForQuery status =>
          have hs : status ≠ .inTransaction ∧ ready status = q := by simpa [next] using h
          obtain ⟨hs, rfl⟩ := hs
          exact .done status fun _ => hs
      | _ => cases h

end Phase

end SqlWire
