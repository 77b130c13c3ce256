import SqlWire.Proofs.Wire.Survival

/-!
# Truncation is noticed

What a reader made of a body stays when more bytes arrive behind it. So a body that is read to
its end is refused if it is cut short anywhere: the reader would have had to be content with
less. The readers of all messages are of this kind, and so is the one that takes frames off a
buffer.
-/

namespace SqlWire

/-- The first bytes of the whole, but not all of them. -/
def CutShort (cut whole : Bytes) : Prop := cut <+: whole ∧ cut ≠ whole

theorem cutShort_iff {cut whole : Bytes} :
    CutShort cut whole ↔ ∃ more, more ≠ [] ∧ whole = cut ++ more := by
  constructor
  · intro h
    obtain ⟨⟨more, rfl⟩, hne⟩ := h
    refine ⟨more, ?_, rfl⟩
    rintro rfl
    exact hne (List.append_nil cut).symm
  · intro h
    obtain ⟨more, hm, rfl⟩ := h
    simp [CutShort, hm]

/-- A cut falls into the front part or into what follows it. -/
theorem CutShort.append {cut front behind : Bytes} (h : CutShort cut (front ++ behind)) :
    CutShort cut front ∨ ∃ tail, cut = front ++ tail ∧ CutShort tail behind := by
  simp only [cutShort_iff] at h ⊢
  obtain ⟨more, hm, hw⟩ := h
  rcases List.append_eq_append_iff.1 hw with ⟨tail, hc, hb⟩ | ⟨missing, hf, hb⟩
  · exact .inr ⟨tail, hc, more, hm, hb⟩
  · by_cases hn : missing = []
    · subst hn
      exact .inr ⟨[], by simpa using hf.symm, more, hm, by simpa using hb.symm⟩
    · exact .inl ⟨missing, hn, hf⟩

theorem CutShort.cons {cut whole : Bytes} (h : CutShort cut whole) (b : UInt8) :
    CutShort (b :: cut) (b :: whole) := by
  simpa [CutShort] using h

namespace Frame

/-- Of a frame that is cut short nothing is taken, and nothing is wrong with it. -/
theorem next_cut {tag : UInt8} {body bytes cut : Bytes} (h : tagged tag body = .ok bytes)
    (hc : CutShort cut bytes) : next cut = .ok none := by
  obtain ⟨more, hm, rfl⟩ := cutShort_iff.1 hc
  have whole := next_tagged h []
  rw [List.append_nil] at whole
  exact next_unfinished whole hm

theorem nextUntagged_cut {body bytes cut : Bytes} (h : untagged body = .ok bytes)
    (hc : CutShort cut bytes) : nextUntagged cut = .ok none := by
  -- Any tag in front makes it a frame that is cut short.
  have ht : tagged 0 body = .ok (0 :: bytes) := by
    rw [tagged, h]
    rfl
  have hn := next_cut ht (hc.cons 0)
  rw [next_cons] at hn
  cases hu : nextUntagged cut with
  | error e =>
      rw [hu] at hn
      cases hn
  | ok taken =>
      rw [hu] at hn
      cases taken with
      | none => rfl
      | some taken => cases hn

end Frame

namespace Reader

/-- What the reader made of a body stays when more bytes arrive behind it. -/
def Local (r : Reader α) : Prop :=
  ∀ ⦃body rest : Bytes⦄ ⦃a : α⦄, r body = (.ok a, rest) →
    ∀ more, r (body ++ more) = (.ok a, rest ++ more)

/-- Bytes that are read to their end are refused wherever they are cut short. -/
theorem Gives.refuses {r : Reader α} {bytes cut : Bytes} {a : α} (hg : Gives r bytes a)
    (hl : Local r) (hc : CutShort cut bytes) : ∃ e left, r cut = (.error e, left) := by
  obtain ⟨more, hm, rfl⟩ := cutShort_iff.1 hc
  cases hr : r cut with
  | mk result left =>
      cases result with
      | error e => exact ⟨e, left, rfl⟩
      | ok b =>
          -- Content with the cut, the reader would leave the missing bytes of the whole.
          have whole := hg []
          rw [List.append_nil, hl hr more, Prod.mk.injEq] at whole
          exact absurd (List.append_eq_nil_iff.1 whole.2).2 hm

theorem Gives.read_refuses {r : Reader α} {bytes cut : Bytes} {a : α} (hg : Gives r bytes a)
    (hl : Local r) (hc : CutShort cut bytes) : ∃ e, r.read cut = .error e := by
  obtain ⟨e, left, hr⟩ := hg.refuses hl hc
  refine ⟨e, ?_⟩
  unfold Reader.read
  change (r cut).1 = _
  rw [hr]

theorem Local.pure (a : α) : Local (Pure.pure a : Reader α) := by
  intro body rest b h more
  cases h
  rfl

theorem Local.throw (e : WireError) : Local (MonadExcept.throw e : Reader α) := by
  intro body rest b h
  cases h

theorem Local.lift (x : Except WireError α) : Local (liftM x : Reader α) := by
  cases x with
  | error e => exact Local.throw e
  | ok a => exact Local.pure a

theorem Local.bind {r : Reader α} {f : α → Reader β} (hr : Local r) (hf : ∀ a, Local (f a)) :
    Local (r >>= f) := by
  intro body rest b h more
  obtain ⟨a, left, ha, hb⟩ := ok_of_bind h
  rw [bind_apply, hr ha more]
  exact hf a hb more

theorem Local.map {r : Reader α} (hr : Local r) (f : α → β) : Local (do return f (← r)) :=
  hr.bind fun a => Local.pure (f a)

theorem Local.ite {p : Prop} [Decidable p] {r s : Reader α} (hr : Local r) (hs : Local s) :
    Local (if p then r else s) := by
  split
  · exact hr
  · exact hs

theorem byte_local (field : String) : Local (byte field) := by
  intro body rest b h more
  unfold byte at h
  split at h
  · cases h
    rfl
  · cases h

theorem word16_local (field : String) : Local (word16 field) := by
  intro body rest w h more
  unfold word16 at h
  split at h
  · cases h
    rfl
  · cases h

theorem word32_local (field : String) : Local (word32 field) := by
  intro body rest w h more
  unfold word32 at h
  split at h
  · cases h
    rfl
  · cases h

theorem int16_local (field : String) : Local (int16 field) :=
  (word16_local field).map UInt16.toInt16

theorem int32_local (field : String) : Local (int32 field) :=
  (word32_local field).map UInt32.toInt32

theorem bytes_local (field : String) (n : Nat) : Local (bytes field n) := by
  intro body rest raw h more
  unfold bytes at h
  split at h
  · next hn =>
      cases h
      rw [bytes, if_pos (by rw [List.length_append]; omega), List.take_append_of_le_length hn,
        List.drop_append_of_le_length hn]
  · cases h

/-- The NUL that ends a text is the first one, whatever follows it. -/
theorem text_local (field : String) : Local (text field) := by
  intro body rest s h more
  unfold text at h
  split at h
  · cases h
  · next nul tail hd =>
      -- A NUL was found, so the text in front of it is shorter than the body.
      have hl := congrArg List.length (List.takeWhile_append_dropWhile (p := (· != 0)) (l := body))
      rw [hd, List.length_append, List.length_cons] at hl
      have hd' : (body ++ more).dropWhile (· != 0) = nul :: (tail ++ more) := by
        rw [List.dropWhile_append, hd]
        rfl
      have ht' : (body ++ more).takeWhile (· != 0) = body.takeWhile (· != 0) := by
        rw [List.takeWhile_append, if_neg (by omega)]
      split at h
      · next he =>
          cases h
          simp only [text, hd', ht', he]
      · cases h

theorem text_refuses (field : String) {s : String} {raw cut : Bytes}
    (h : Bytes.ofTerminated s = .ok raw) (hc : CutShort cut raw) :
    ∃ e left, text field cut = (.error e, left) :=
  (text_gives field h).refuses (text_local field) hc

theorem int32_refuses (field : String) {n : Int32} {cut : Bytes}
    (hc : CutShort cut (Bytes.ofWord32 n.toUInt32)) :
    ∃ e left, int32 field cut = (.error e, left) :=
  (int32_gives field n).refuses (int32_local field) hc

theorem nullable_local (field : String) : Local (nullable field) := by
  unfold nullable
  apply (int32_local field).bind
  intro size
  apply Local.ite (Local.pure none)
  apply Local.ite
  · exact (Local.throw _).bind fun _ => (bytes_local field _).map some
  · exact (bytes_local field _).map some

theorem times_local {r : Reader α} (hr : Local r) (n : Nat) : Local (times n r) := by
  induction n with
  | zero => exact Local.pure []
  | succ n ih =>
      rw [times_succ]
      exact hr.bind fun a => ih.map (a :: ·)

end Reader

open Reader

theorem FieldDescription.reader_local : Local FieldDescription.reader :=
  (text_local _).bind fun _ => (word32_local _).bind fun _ => (int16_local _).bind fun _ =>
    (word32_local _).bind fun _ => (int16_local _).bind fun _ => (int32_local _).bind fun _ =>
      (int16_local _).map _

theorem Diagnostic.readOnto_local (d : Diagnostic) : Local (readOnto d) := by
  intro body rest report h more
  fun_induction readOnto d body with
  | case1 => cases h
  | case2 =>
      cases h
      exact readOnto_end report (rest ++ more)
  | case3 d kind tail hk value left ht ih =>
      rw [List.cons_append, readOnto_text hk (text_local _ ht more)]
      exact ih h
  | case4 => cases h

/-! ## Messages of the server -/

theorem BackendMessage.authenticationReader_local : Local authenticationReader := by
  apply (int32_local _).bind
  intro code
  apply Local.ite (Local.pure _)
  apply Local.ite (Local.pure _)
  apply Local.ite
  · exact (byte_local _).bind fun _ => (byte_local _).bind fun _ => (byte_local _).bind fun _ =>
      (byte_local _).map _
  · exact Local.pure _

theorem BackendMessage.reader_local (tag : UInt8) : Local (reader tag) := by
  unfold reader
  split
  · exact authenticationReader_local
  · exact (text_local _).bind fun _ => (text_local _).map _
  · exact (int32_local _).bind fun _ => (int32_local _).map _
  · exact (byte_local _).bind fun _ => (Local.lift _).map _
  · exact (int16_local _).bind fun _ => (times_local FieldDescription.reader_local _).map _
  · exact (int16_local _).bind fun _ => (times_local (nullable_local _) _).map _
  · exact (text_local _).map _
  · exact Local.pure _
  · exact (Diagnostic.readOnto_local _).map _
  · exact (Diagnostic.readOnto_local _).map _
  · exact Local.pure _
  · exact Local.pure _
  · exact Local.pure _
  · exact Local.pure _
  · exact Local.throw _

/-- The body of a message that is carried is refused wherever it is cut short. -/
theorem BackendMessage.Carried.decode_cut {m : BackendMessage} (h : m.Carried) {raw cut : Bytes}
    (hb : m.body = .ok raw) (hc : CutShort cut raw) :
    ∃ e, decode ⟨m.tag.toUInt8, cut⟩ = .error e :=
  (h.reader_gives hb).read_refuses (reader_local _) hc

/-! ## Messages of the client -/

namespace FrontendMessage

theorem textFormats_local (field refusal : String) (n : Nat) :
    Local (textFormats field refusal n) := by
  induction n with
  | zero => exact Local.pure ()
  | succ n ih =>
      rw [textFormats]
      apply (int16_local field).bind
      intro format
      apply Local.ite
      · exact (Local.throw _).bind fun _ => ih
      · exact ih

theorem bindReader_local : Local bindReader :=
  (text_local _).bind fun _ => (text_local _).bind fun _ =>
    (int16_local _).bind fun _ => (textFormats_local _ _ _).bind fun _ =>
      (int16_local _).bind fun _ => (times_local (nullable_local _) _).bind fun _ =>
        (int16_local _).bind fun _ => (textFormats_local _ _ _).map _

theorem describeReader_local : Local describeReader := by
  apply (byte_local _).bind
  intro kind
  dsimp only
  split
  · exact (text_local _).map _
  · exact (text_local _).map _
  · exact (Local.throw _).bind fun _ => (text_local _).map _

theorem reader_local (tag : UInt8) : Local (reader tag) := by
  unfold reader
  split
  · exact (text_local _).map _
  · exact (text_local _).map _
  · exact (text_local _).bind fun _ => (text_local _).bind fun _ =>
      (int16_local _).bind fun _ => (times_local (word32_local _) _).map _
  · exact bindReader_local
  · exact describeReader_local
  · exact (text_local _).bind fun _ => (int32_local _).map _
  · exact Local.pure _
  · exact Local.pure _
  · exact Local.pure _
  · exact Local.throw _

/-- Where a parameter is cut, its name or its value lacks its end; and without the last byte,
there is no name that ends the parameters. -/
theorem paramsOnto_cut {params : List (String × String)} (hne : ∀ param ∈ params, param.1 ≠ "")
    {encoded : List Bytes} (h : params.mapM encodeParam = .ok encoded)
    (read : List (String × String)) {cut : Bytes} (hc : CutShort cut (encoded.flatten ++ [0])) :
    ∃ e, paramsOnto read cut = .error e := by
  induction params generalizing encoded read cut with
  | nil =>
      cases h
      have terminator : Bytes.ofTerminated "" = .ok [0] := rfl
      obtain ⟨e, left, hr⟩ := text_refuses "startup parameter name" terminator hc
      exact ⟨e, by rw [paramsOnto_eq, hr]⟩
  | cons param params ih =>
      obtain ⟨name, value⟩ := param
      obtain ⟨hname, hnames⟩ := List.forall_mem_cons.1 hne
      obtain ⟨rawName, rawValue, rest, hn, hv, hr, rfl⟩ := mapM_encodeParam_cons h
      rw [List.flatten_cons, List.append_assoc, List.append_assoc] at hc
      rcases hc.append with inName | ⟨tail, rfl, behindName⟩
      · obtain ⟨e, left, hr⟩ := text_refuses "startup parameter name" hn inName
        exact ⟨e, by rw [paramsOnto_eq, hr]⟩
      rcases behindName.append with inValue | ⟨tail, rfl, later⟩
      · obtain ⟨e, left, hr⟩ := text_refuses "startup parameter value" hv inValue
        refine ⟨e, ?_⟩
        rw [paramsOnto_eq, text_gives _ hn]
        dsimp only
        rw [if_neg hname, hr]
      · rw [paramsOnto_param hname hn hv]
        exact ih hnames hr _ later

theorem decodeStartup_refused {body left : Bytes} {e : WireError}
    (h : int32 "protocol version" body = (.error e, left)) : decodeStartup body = .error e := by
  unfold decodeStartup
  rw [h]

theorem Carried.decodeStartup_cut {m : FrontendMessage} (h : m.Carried) (ht : m.tag? = none)
    {raw cut : Bytes} (hb : m.body = .ok raw) (hc : CutShort cut raw) :
    ∃ e, decodeStartup cut = .error e := by
  cases m with
  | sslRequest =>
      cases hb
      obtain ⟨e, left, hr⟩ := int32_refuses "protocol version" hc
      exact ⟨e, decodeStartup_refused hr⟩
  | startup version params =>
      obtain ⟨⟨rfl, hne⟩, -⟩ := h
      obtain ⟨encoded, he, hb⟩ := SqlWire.ok_of_bind hb
      cases hb
      rcases hc.append with inVersion | ⟨tail, rfl, later⟩
      · obtain ⟨e, left, hr⟩ := int32_refuses "protocol version" inVersion
        exact ⟨e, decodeStartup_refused hr⟩
      · obtain ⟨e, hp⟩ := paramsOnto_cut hne he [] later
        refine ⟨e, ?_⟩
        unfold decodeStartup
        rw [int32_gives]
        dsimp only
        rw [if_neg (by decide), if_pos rfl, hp]
        rfl
  | _ => cases ht

theorem Carried.decode_cut {m : FrontendMessage} (h : m.Carried) {raw cut : Bytes}
    (hb : m.body = .ok raw) (hc : CutShort cut raw) :
    ∃ e, FrontendMessage.decodeBehind m.tag? cut = .error e := by
  cases ht : m.tag? with
  | some tag => exact (h.reader_gives ht hb).read_refuses (reader_local _) hc
  | none => exact h.decodeStartup_cut ht hb hc

end FrontendMessage

open FrameBuffer in
/-- Cut short anywhere, the bytes of a message that is carried give no frame and no complaint, and
stay in the buffer; and its body, cut short anywhere, is refused. -/
theorem truncation_noticed :
    (∀ m : BackendMessage, m.Carried → ∃ raw bytes, m.body = .ok raw ∧ m.encode = .ok bytes ∧
      (∀ cut, CutShort cut bytes → next cut = (.ok none, cut)) ∧
      ∀ cut, CutShort cut raw → ∃ e, BackendMessage.decode ⟨m.tag.toUInt8, cut⟩ = .error e) ∧
    ∀ m : FrontendMessage, m.Carried → ∃ raw bytes, m.body = .ok raw ∧ m.encode = .ok bytes ∧
      (∀ cut, CutShort cut bytes → match m.tag? with
        | some _ => next cut = (.ok none, cut)
        | none => nextUntagged cut = (.ok none, cut)) ∧
      ∀ cut, CutShort cut raw → ∃ e, FrontendMessage.decodeBehind m.tag? cut = .error e := by
  constructor
  · intro m h
    obtain ⟨raw, bytes, hb, -, he, ht⟩ := h.encodes
    refine ⟨raw, bytes, hb, he, ?_, ?_⟩
    · intro cut hc
      exact next_eq_none.2 ⟨Frame.next_cut ht hc, rfl⟩
    · intro cut hc
      exact h.decode_cut hb hc
  · intro m h
    obtain ⟨raw, bytes, hb, -, he, hf⟩ := h.encodes
    refine ⟨raw, bytes, hb, he, ?_, ?_⟩
    · intro cut hc
      cases ht : m.tag? with
      | some tag =>
          rw [ht] at hf
          exact next_eq_none.2 ⟨Frame.next_cut hf hc, rfl⟩
      | none =>
          rw [ht] at hf
          simp [nextUntagged, Frame.nextUntagged_cut hf hc]
    · intro cut hc
      exact h.decode_cut hb hc

open FrameBuffer in
/-- A row with an absent value, and a session that is opened. -/
theorem truncation_noticed_opening :
    let row : BackendMessage := .dataRow [some [49], none]
    let opening : FrontendMessage := .startup Protocol.version3 [("user", "app")]
    (row.Carried ∧ ∃ raw bytes, row.body = .ok raw ∧ row.encode = .ok bytes ∧
      (∀ cut, CutShort cut bytes → next cut = (.ok none, cut)) ∧
      ∀ cut, CutShort cut raw → ∃ e, BackendMessage.decode ⟨row.tag.toUInt8, cut⟩ = .error e) ∧
    opening.Carried ∧ ∃ raw bytes, opening.body = .ok raw ∧ opening.encode = .ok bytes ∧
      (∀ cut, CutShort cut bytes → nextUntagged cut = (.ok none, cut)) ∧
      ∀ cut, CutShort cut raw → ∃ e, FrontendMessage.decodeStartup cut = .error e := by
  intro row opening
  have hr : row.Carried := ⟨trivial, .of_body (by decide) (by decide) rfl (by decide)⟩
  have ho : opening.Carried :=
    ⟨⟨rfl, by decide⟩, .of_body (by decide) (by decide) rfl (by decide)⟩
  exact ⟨⟨hr, truncation_noticed.1 row hr⟩, ho, truncation_noticed.2 opening ho⟩

end SqlWire
