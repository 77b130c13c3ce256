import SqlWire.Proofs.Wire.Fields

/-!
# Messages read back as they were written

A frame is taken off the front of any buffer as it was put there. Of a list with too many
entries the reader sees as many as its count announces, which is what `BackendMessage.received`
says; every other message of a session reads back as itself.
-/

namespace SqlWire

/-- A list of steps succeeds only if each does, and gives what each gives. -/
theorem mapM_eq_ok {ε α β : Type} [Inhabited β] {f : α → Except ε β} {as : List α} {bs : List β}
    (h : as.mapM f = .ok bs) :
    (∀ a ∈ as, f a = .ok ((f a).toOption.getD default)) ∧
      bs = as.map fun a => (f a).toOption.getD default := by
  induction as generalizing bs with
  | nil =>
      cases h
      exact ⟨by simp, rfl⟩
  | cons a as ih =>
      rw [List.mapM_cons] at h
      obtain ⟨b, hb, h⟩ := ok_of_bind h
      obtain ⟨rest, hr, h⟩ := ok_of_bind h
      cases h
      obtain ⟨hall, rfl⟩ := ih hr
      refine ⟨?_, by rw [List.map_cons, hb]; rfl⟩
      intro c hc
      rcases List.mem_cons.1 hc with rfl | hc
      · rw [hb]
        rfl
      · exact hall c hc

theorem mapM_length {ε α β : Type} {f : α → Except ε β} {as : List α} {bs : List β}
    (h : as.mapM f = .ok bs) : bs.length = as.length := by
  induction as generalizing bs with
  | nil =>
      cases h
      rfl
  | cons a as ih =>
      rw [List.mapM_cons] at h
      obtain ⟨b, _, h⟩ := ok_of_bind h
      obtain ⟨rest, hr, h⟩ := ok_of_bind h
      cases h
      rw [List.length_cons, List.length_cons, ih hr]

namespace Frame

theorem tagged_eq_ok {tag : UInt8} {body bytes : Bytes} (h : tagged tag body = .ok bytes) :
    body.length ≤ maxBody ∧
      bytes = tag :: (Bytes.ofWord32 (UInt32.ofNat (body.length + 4)) ++ body) := by
  unfold tagged untagged at h
  split at h
  · cases h
  · next hl =>
      cases h
      exact ⟨Nat.le_of_not_lt hl, rfl⟩

theorem untagged_eq_ok {body bytes : Bytes} (h : untagged body = .ok bytes) :
    body.length ≤ maxBody ∧
      bytes = Bytes.ofWord32 (UInt32.ofNat (body.length + 4)) ++ body := by
  unfold untagged at h
  split at h
  · cases h
  · next hl =>
      cases h
      exact ⟨Nat.le_of_not_lt hl, rfl⟩

theorem bodySize_ofNat {n : Nat} (h : n ≤ maxBody) : bodySize (UInt32.ofNat (n + 4)) = .ok n := by
  have hm : maxBody = 16777216 := rfl
  have hn : (UInt32.ofNat (n + 4)).toNat = n + 4 := by
    rw [UInt32.toNat_ofNat']
    omega
  simp only [bodySize, hn]
  rw [if_neg (by omega), if_neg (by omega)]
  simp

theorem nextUntagged_untagged {body bytes : Bytes} (h : untagged body = .ok bytes)
    (rest : Bytes) : nextUntagged (bytes ++ rest) = .ok (some (body, rest)) := by
  obtain ⟨hl, rfl⟩ := untagged_eq_ok h
  simp only [Bytes.ofWord32, List.cons_append, List.nil_append, nextUntagged, Bytes.word32_split,
    bodySize_ofNat hl]
  simp

/-- Behind its tag, a frame is taken off as an untagged body is. -/
theorem next_cons (tag : UInt8) (buffer : Bytes) :
    next (tag :: buffer) =
      (nextUntagged buffer).map (Option.map fun (body, rest) => (⟨tag, body⟩, rest)) := by
  match buffer with
  | [] | [_] | [_, _] | [_, _, _] => rfl
  | a :: b :: c :: d :: rest =>
      simp only [next, nextUntagged]
      cases bodySize (Bytes.word32 a b c d) with
      | error e => rfl
      | ok n =>
          dsimp only
          split <;> rfl

/-- A framed body is taken off the front of any buffer. -/
theorem next_tagged {tag : UInt8} {body bytes : Bytes} (h : tagged tag body = .ok bytes)
    (rest : Bytes) : next (bytes ++ rest) = .ok (some (⟨tag, body⟩, rest)) := by
  unfold tagged at h
  cases hu : untagged body with
  | error e => rw [hu] at h; cases h
  | ok front =>
      rw [hu] at h
      cases h
      rw [List.cons_append, next_cons, nextUntagged_untagged hu]
      rfl

end Frame

theorem FieldDescription.reader_gives {f : FieldDescription} {bytes : Bytes}
    (h : f.encode = .ok bytes) : Reader.Gives reader bytes f := by
  obtain ⟨name, hn, h⟩ := ok_of_bind h
  cases h
  have shape : Reader.Gives reader
      (name ++ (Bytes.ofWord32 f.tableOid ++ (Bytes.ofWord16 f.columnId.toUInt16 ++
        (Bytes.ofWord32 f.typeOid ++ (Bytes.ofWord16 f.typeSize.toUInt16 ++
        (Bytes.ofWord32 f.typeModifier.toUInt32 ++
        (Bytes.ofWord16 f.format.toUInt16 ++ []))))))) f :=
    (Reader.text_gives _ hn).bind ((Reader.word32_gives _ _).bind ((Reader.int16_gives _ _).bind
      ((Reader.word32_gives _ _).bind ((Reader.int16_gives _ _).bind ((Reader.int32_gives _ _).bind
        ((Reader.int16_gives _ _).bind (Reader.Gives.pure f)))))))
  simpa using shape

/-- Values that a frame has room for are short enough to be told from absent ones. -/
theorem Reader.nullables_give (field : String) {values : List (Option Bytes)}
    (hl : (values.flatMap Bytes.ofNullable).length ≤ Frame.maxBody) :
    ∀ v ∈ values, Gives (nullable field) (Bytes.ofNullable v) v := by
  intro v hv
  apply nullable_gives
  intro raw hr
  subst hr
  obtain ⟨before, after, rfl⟩ := List.append_of_mem hv
  have hm : Frame.maxBody = 16777216 := rfl
  simp only [List.flatMap_append, List.flatMap_cons, Bytes.ofNullable, List.length_append] at hl
  omega

namespace BackendMessage

def received : BackendMessage → BackendMessage
  | rowDescription fields => rowDescription (fields.take (Bytes.announced fields.length))
  | dataRow values => dataRow (values.take (Bytes.announced values.length))
  | m => m

def entries : BackendMessage → Nat
  | rowDescription fields => fields.length
  | dataRow values => values.length
  | _ => 0

/-- A request to authenticate in another way that names one of the known ways is no such
request. -/
def Plain : BackendMessage → Prop
  | authenticationOther code => code ≠ 0 ∧ code ≠ 3 ∧ code ≠ 5
  | _ => True

theorem encode_eq_ok {m : BackendMessage} {bytes : Bytes} (h : m.encode = .ok bytes) :
    ∃ body, m.body = .ok body ∧ Frame.tagged m.tag.toUInt8 body = .ok bytes :=
  ok_of_bind h

/-- The entries that the count announces are read, the others are left. -/
theorem rowDescription_leaves {fields : List FieldDescription} {body : Bytes}
    (hb : (rowDescription fields).body = .ok body) :
    ∃ left, (reader 'T'.toUInt8).Leaves body (rowDescription fields).received left ∧
      (fields.length ≤ Bytes.announced fields.length → left = []) := by
  obtain ⟨encoded, he, hb⟩ := ok_of_bind hb
  cases hb
  obtain ⟨hall, rfl⟩ := mapM_eq_ok he
  have ht := Reader.times_leaves (Bytes.announced_le fields.length)
    fun f hf => FieldDescription.reader_gives (hall f hf)
  refine ⟨_, (Reader.count_gives "field count" fields.length).then (ht.map rowDescription), ?_⟩
  intro hl
  rw [List.drop_eq_nil_of_le hl, List.flatMap_nil]

theorem dataRow_leaves {values : List (Option Bytes)} {body : Bytes}
    (hb : (dataRow values).body = .ok body) (hl : body.length ≤ Frame.maxBody) :
    ∃ left, (reader 'D'.toUInt8).Leaves body (dataRow values).received left ∧
      (values.length ≤ Bytes.announced values.length → left = []) := by
  cases hb
  rw [List.length_append] at hl
  have hv := Reader.nullables_give "column value" (Nat.le_of_add_left_le hl)
  have ht := Reader.times_leaves (Bytes.announced_le values.length) hv
  refine ⟨_, (Reader.count_gives "column count" values.length).then (ht.map dataRow), ?_⟩
  intro hl
  rw [List.drop_eq_nil_of_le hl, List.flatMap_nil]

theorem authenticationOther_gives {code : Int32} (h : code ≠ 0 ∧ code ≠ 3 ∧ code ≠ 5) :
    (reader 'R'.toUInt8).Gives (Bytes.ofWord32 code.toUInt32) (authenticationOther code) := by
  intro rest
  change ((Reader.int32 "authentication code") >>= fun code =>
    if code = 0 then (Pure.pure authenticationOk : Reader BackendMessage) else _) _ = _
  rw [bind_apply, Reader.int32_gives]
  simp only [if_neg h.1, if_neg h.2.1, if_neg h.2.2]
  rfl

/-- Of a body of a size that a frame may have, nothing is left but entries that were not
announced. -/
theorem reader_leaves {m : BackendMessage} {body : Bytes} (hp : m.Plain) (hb : m.body = .ok body)
    (hl : body.length ≤ Frame.maxBody) :
    ∃ left, (reader m.tag.toUInt8).Leaves body m.received left ∧
      (m.entries ≤ Bytes.announced m.entries → left = []) := by
  have whole {m : BackendMessage} (hg : (reader m.tag.toUInt8).Gives body m.received) :
      ∃ left, (reader m.tag.toUInt8).Leaves body m.received left ∧
        (m.entries ≤ Bytes.announced m.entries → left = []) := ⟨[], hg, fun _ => rfl⟩
  cases m with
  | authenticationOk => cases hb; exact whole fun _ => rfl
  | authenticationCleartextPassword => cases hb; exact whole fun _ => rfl
  | authenticationMd5Password a b c d => cases hb; exact whole fun _ => rfl
  | authenticationOther code => cases hb; exact whole (authenticationOther_gives hp)
  | parameterStatus name value =>
      obtain ⟨rawName, hn, hb⟩ := ok_of_bind hb
      obtain ⟨rawValue, hv, hb⟩ := ok_of_bind hb
      cases hb
      exact whole ((Reader.text_gives _ hn).bind
        ((Reader.text_gives _ hv).map (parameterStatus name)))
  | backendKeyData processId secretKey =>
      cases hb
      exact whole ((Reader.int32_gives _ processId).bind
        ((Reader.int32_gives _ secretKey).map (backendKeyData processId)))
  | readyForQuery status => cases hb; cases status <;> exact whole fun _ => rfl
  | rowDescription fields => exact rowDescription_leaves hb
  | dataRow values => exact dataRow_leaves hb hl
  | commandComplete tag => exact whole ((Reader.text_gives _ hb).map commandComplete)
  | emptyQueryResponse => cases hb; exact whole fun _ => rfl
  | errorResponse report => exact whole ((Diagnostic.reader_gives hb).map errorResponse)
  | noticeResponse report => exact whole ((Diagnostic.reader_gives hb).map noticeResponse)
  | parseComplete => cases hb; exact whole fun _ => rfl
  | bindComplete => cases hb; exact whole fun _ => rfl
  | closeComplete => cases hb; exact whole fun _ => rfl
  | noData => cases hb; exact whole fun _ => rfl

/-- A body of a size that a frame may have is read back. -/
theorem decode_body {m : BackendMessage} {body : Bytes} (hp : m.Plain) (hb : m.body = .ok body)
    (hl : body.length ≤ Frame.maxBody) : decode ⟨m.tag.toUInt8, body⟩ = .ok m.received := by
  obtain ⟨left, hr, -⟩ := reader_leaves hp hb hl
  exact hr.read

/-- What was put on the wire is taken off any buffer as one frame and read. -/
theorem next_encode {m : BackendMessage} {bytes : Bytes} (hp : m.Plain) (h : m.encode = .ok bytes)
    (rest : Bytes) : ∃ frame, Frame.next (bytes ++ rest) = .ok (some (frame, rest)) ∧
      decode frame = .ok m.received := by
  obtain ⟨body, hb, ht⟩ := encode_eq_ok h
  exact ⟨_, Frame.next_tagged ht rest, decode_body hp hb (Frame.tagged_eq_ok ht).1⟩

end BackendMessage

namespace FrontendMessage

/-- What was put on the wire behind a tag is taken off any buffer as one frame. -/
theorem next_encode {m : FrontendMessage} {tag : Char} (ht : m.tag? = some tag) {bytes : Bytes}
    (h : m.encode = .ok bytes) (rest : Bytes) :
    ∃ body, m.body = .ok body ∧
      Frame.next (bytes ++ rest) = .ok (some (⟨tag.toUInt8, body⟩, rest)) := by
  obtain ⟨body, hb, h⟩ := ok_of_bind h
  rw [ht] at h
  exact ⟨body, hb, Frame.next_tagged h rest⟩

theorem encodeAll_nil : encodeAll [] = .ok [] := rfl

theorem encodeAll_cons {m : FrontendMessage} {ms : List FrontendMessage} {bytes : Bytes}
    (h : encodeAll (m :: ms) = .ok bytes) :
    ∃ front rest, m.encode = .ok front ∧ encodeAll ms = .ok rest ∧ bytes = front ++ rest := by
  unfold encodeAll at h
  rw [List.mapM_cons] at h
  cases hm : m.encode with
  | error e => rw [hm] at h; cases h
  | ok front =>
      cases hms : ms.mapM encode with
      | error e => rw [hm, hms] at h; cases h
      | ok rest =>
          rw [hm, hms] at h
          cases h
          exact ⟨front, rest.flatten, rfl, by rw [encodeAll, hms]; rfl, rfl⟩

theorem encodeAll_singleton (m : FrontendMessage) : encodeAll [m] = m.encode := by
  unfold encodeAll
  rw [List.mapM_cons, List.mapM_nil]
  cases m.encode with
  | error e => rfl
  | ok bytes =>
      change Except.ok (bytes ++ []) = _
      rw [List.append_nil]

theorem password_gives {text : String} {body : Bytes} (hb : (password text).body = .ok body) :
    (reader 'p'.toUInt8).Gives body (password text) :=
  (Reader.text_gives _ hb).map password

theorem decode_password {text : String} {body : Bytes} (hb : (password text).body = .ok body) :
    decode ⟨'p'.toUInt8, body⟩ = .ok (password text) :=
  (password_gives hb).read

theorem query_gives {sql : String} {body : Bytes} (hb : (query sql).body = .ok body) :
    (reader 'Q'.toUInt8).Gives body (query sql) :=
  (Reader.text_gives _ hb).map query

theorem decode_query {sql : String} {body : Bytes} (hb : (query sql).body = .ok body) :
    decode ⟨'Q'.toUInt8, body⟩ = .ok (query sql) :=
  (query_gives hb).read

/-- The types that the count announces are read, the others are left. -/
theorem parse_leaves {name sql : String} {types : List TypeOid} {body : Bytes}
    (hb : (parse name sql types).body = .ok body) :
    (reader 'P'.toUInt8).Leaves body (parse name sql (types.take (Bytes.announced types.length)))
      ((types.drop (Bytes.announced types.length)).flatMap Bytes.ofWord32) := by
  obtain ⟨rawName, hn, hb⟩ := ok_of_bind hb
  obtain ⟨rawSql, hs, hb⟩ := ok_of_bind hb
  cases hb
  have ht := Reader.times_leaves (Bytes.announced_le types.length)
    fun t (_ : t ∈ types) => Reader.word32_gives "parameter type" t
  exact (Reader.text_gives "statement name" hn).then ((Reader.text_gives "query string" hs).then
    ((Reader.count_gives "parameter type count" types.length).then (ht.map (parse name sql))))

theorem decode_parse {name sql : String} {types : List TypeOid} {body : Bytes}
    (hb : (parse name sql types).body = .ok body) :
    decode ⟨'P'.toUInt8, body⟩ =
      .ok (parse name sql (types.take (Bytes.announced types.length))) :=
  (parse_leaves hb).read

theorem describe_gives {target : DescribeTarget} {name : String} {body : Bytes}
    (hb : (describe target name).body = .ok body) :
    (reader 'D'.toUInt8).Gives body (describe target name) := by
  obtain ⟨raw, hn, hb⟩ := ok_of_bind hb
  cases hb
  have hg := (Reader.text_gives "describe name" hn).map (describe target)
  cases target with
  | statement => exact (Reader.byte_gives "describe target" 'S'.toUInt8).bind hg
  | portal => exact (Reader.byte_gives "describe target" 'P'.toUInt8).bind hg

theorem decode_describe {name : String} {body : Bytes}
    (hb : (describe .portal name).body = .ok body) :
    decode ⟨'D'.toUInt8, body⟩ = .ok (describe .portal name) :=
  (describe_gives hb).read

theorem execute_gives {portal : String} {maxRows : Int32} {body : Bytes}
    (hb : (execute portal maxRows).body = .ok body) :
    (reader 'E'.toUInt8).Gives body (execute portal maxRows) := by
  obtain ⟨raw, hn, hb⟩ := ok_of_bind hb
  cases hb
  exact (Reader.text_gives "portal name" hn).bind
    ((Reader.int32_gives "row limit" maxRows).map (execute portal))

theorem decode_execute {portal : String} {maxRows : Int32} {body : Bytes}
    (hb : (execute portal maxRows).body = .ok body) :
    decode ⟨'E'.toUInt8, body⟩ = .ok (execute portal maxRows) :=
  (execute_gives hb).read

theorem decode_sync : decode ⟨'S'.toUInt8, []⟩ = .ok sync := rfl

end FrontendMessage

theorem Reader.ok_of_bind {r : Reader α} {f : α → Reader β} {body rest : Bytes} {b : β}
    (h : (r >>= f) body = (.ok b, rest)) :
    ∃ a left, r body = (.ok a, left) ∧ f a left = (.ok b, rest) := by
  rw [bind_apply] at h
  split at h
  · next a left he => exact ⟨a, left, he, h⟩
  · cases h

/-- Behind a value that was read, the rest of the reader succeeded. -/
theorem Reader.Gives.ok_of_bind {r : Reader α} {f : α → Reader β} {bytes more rest : Bytes}
    {a : α} {b : β} (hr : r.Gives bytes a) (h : (r >>= f) (bytes ++ more) = (.ok b, rest)) :
    f a more = (.ok b, rest) := by
  rwa [bind_apply, hr] at h

theorem Reader.times_length {n : Nat} {r : Reader α} {body rest : Bytes} {as : List α}
    (h : times n r body = (.ok as, rest)) : as.length = n := by
  induction n generalizing body as with
  | zero =>
      cases h
      rfl
  | succ n ih =>
      rw [times_succ] at h
      obtain ⟨a, left, -, h⟩ := Reader.ok_of_bind h
      obtain ⟨more, _, ht, h⟩ := Reader.ok_of_bind h
      cases h
      rw [List.length_cons, ih ht]

namespace FrontendMessage

/-- Where no format codes are announced, none are read. -/
theorem noFormats_give (count field refusal : String) {r : Reader α} {bytes : Bytes} {a : α}
    (hr : r.Gives bytes a) : Reader.Gives (do
      let formats ← Reader.int16 count
      textFormats field refusal formats.toInt.toNat
      r) (Bytes.ofCount 0 ++ bytes) a :=
  (Reader.count_gives count 0).bind ((Reader.Gives.pure ()).bind hr)

theorem bind_gives {portal statement : String} {params : List (Option Bytes)} {body : Bytes}
    (hn : Bytes.announced params.length = params.length)
    (hb : (bind portal statement params).body = .ok body) (hl : body.length ≤ Frame.maxBody) :
    (reader 'B'.toUInt8).Gives body (bind portal statement params) := by
  obtain ⟨rawPortal, hp, hb⟩ := SqlWire.ok_of_bind hb
  obtain ⟨rawStatement, hs, hb⟩ := SqlWire.ok_of_bind hb
  cases hb
  simp only [List.length_append] at hl
  have hv : ∀ v ∈ params, (Reader.nullable "parameter value").Gives (Bytes.ofNullable v) v :=
    Reader.nullables_give "parameter value" (by omega)
  have ht := Reader.times_gives hv
  rw [← hn] at ht
  exact (Reader.text_gives _ hp).bind ((Reader.text_gives _ hs).bind
    (noFormats_give _ _ _ ((Reader.count_gives _ params.length).bind (ht.bind
      (noFormats_give _ _ _ (Reader.Gives.pure (bind portal statement params)))))))

/-- A binding is read with as many parameters as its count announces. -/
theorem decode_bind_length {portal statement : String} {params : List (Option Bytes)}
    {body : Bytes} (hb : (bind portal statement params).body = .ok body) {m : FrontendMessage}
    (h : decode ⟨'B'.toUInt8, body⟩ = .ok m) :
    ∃ read, m = bind portal statement read ∧ read.length = Bytes.announced params.length := by
  obtain ⟨rawPortal, hp, hb⟩ := SqlWire.ok_of_bind hb
  obtain ⟨rawStatement, hs, hb⟩ := SqlWire.ok_of_bind hb
  cases hb
  have hr : ∃ left, bindReader (rawPortal ++ (rawStatement ++ (Bytes.ofCount 0 ++
      (Bytes.ofCount params.length ++ (params.flatMap Bytes.ofNullable ++ Bytes.ofCount 0))))) =
        (.ok m, left) := by
    rw [← h]
    exact ⟨_, rfl⟩
  obtain ⟨left, hr⟩ := hr
  replace hr := (Reader.text_gives _ hp).ok_of_bind hr
  replace hr := (Reader.text_gives _ hs).ok_of_bind hr
  replace hr := (Reader.count_gives _ 0).ok_of_bind hr
  replace hr := (Reader.count_gives _ params.length).ok_of_bind hr
  obtain ⟨read, _, ht, hr⟩ := Reader.ok_of_bind hr
  obtain ⟨_, _, _, hr⟩ := Reader.ok_of_bind hr
  obtain ⟨_, _, _, hr⟩ := Reader.ok_of_bind hr
  cases hr
  exact ⟨read, rfl, Reader.times_length ht⟩

/-- Whatever stands behind the tag of a binding is a binding or nothing. -/
theorem decode_bind {body : Bytes} {m : FrontendMessage} (h : decode ⟨'B'.toUInt8, body⟩ = .ok m) :
    ∃ portal statement params, m = bind portal statement params := by
  have hr : bindReader body = (.ok m, (bindReader body).2) := by
    rw [← h]
    rfl
  obtain ⟨portal, _, _, hr⟩ := Reader.ok_of_bind hr
  obtain ⟨statement, _, _, hr⟩ := Reader.ok_of_bind hr
  obtain ⟨_, _, _, hr⟩ := Reader.ok_of_bind hr
  obtain ⟨_, _, _, hr⟩ := Reader.ok_of_bind hr
  obtain ⟨_, _, _, hr⟩ := Reader.ok_of_bind hr
  obtain ⟨params, _, _, hr⟩ := Reader.ok_of_bind hr
  obtain ⟨_, _, _, hr⟩ := Reader.ok_of_bind hr
  obtain ⟨_, _, _, hr⟩ := Reader.ok_of_bind hr
  cases hr
  exact ⟨portal, statement, params, rfl⟩

/-- What is done with the parameters, without the proofs that they get fewer. -/
theorem paramsOnto_eq (read : List (String × String)) (body : Bytes) :
    paramsOnto read body = match Reader.text "startup parameter name" body with
      | (.error e, _) => .error e
      | (.ok name, rest) =>
        if name = "" then .ok read.reverse
        else match Reader.text "startup parameter value" rest with
          | (.error e, _) => .error e
          | (.ok value, left) => paramsOnto ((name, value) :: read) left := by
  rw [paramsOnto]
  split
  · next he => rw [he]
  · next he =>
      rw [he]
      dsimp only
      split
      · rfl
      · split
        · next he' => rw [he']
        · next he' => rw [he']

theorem paramsOnto_end {raw : Bytes} (h : Bytes.ofTerminated "" = .ok raw)
    (read : List (String × String)) (rest : Bytes) :
    paramsOnto read (raw ++ rest) = .ok read.reverse := by
  rw [paramsOnto_eq, Reader.text_gives _ h]
  rfl

theorem paramsOnto_param {name value : String} (hne : name ≠ "") {rawName rawValue : Bytes}
    (hn : Bytes.ofTerminated name = .ok rawName) (hv : Bytes.ofTerminated value = .ok rawValue)
    (read : List (String × String)) (rest : Bytes) :
    paramsOnto read (rawName ++ (rawValue ++ rest)) = paramsOnto ((name, value) :: read) rest := by
  rw [paramsOnto_eq, Reader.text_gives _ hn]
  dsimp only
  rw [if_neg hne, Reader.text_gives _ hv]

/-- What parameters look like is a name, a value and what the others look like. -/
theorem mapM_encodeParam_cons {name value : String} {params : List (String × String)}
    {encoded : List Bytes} (h : ((name, value) :: params).mapM encodeParam = .ok encoded) :
    ∃ rawName rawValue rest, Bytes.ofTerminated name = .ok rawName ∧
      Bytes.ofTerminated value = .ok rawValue ∧ params.mapM encodeParam = .ok rest ∧
      encoded = (rawName ++ rawValue) :: rest := by
  rw [List.mapM_cons] at h
  obtain ⟨raw, hp, h⟩ := SqlWire.ok_of_bind h
  obtain ⟨rest, hr, h⟩ := SqlWire.ok_of_bind h
  obtain ⟨rawName, hn, hp⟩ := SqlWire.ok_of_bind hp
  obtain ⟨rawValue, hv, hp⟩ := SqlWire.ok_of_bind hp
  cases h
  cases hp
  exact ⟨rawName, rawValue, rest, hn, hv, hr, rfl⟩

/-- Parameters are read up to the first one without a name. -/
theorem paramsOnto_encoded {params : List (String × String)} {encoded : List Bytes}
    (h : params.mapM encodeParam = .ok encoded) (read : List (String × String)) :
    paramsOnto read (encoded.flatten ++ [0]) =
      .ok (read.reverse ++ params.takeWhile fun param => param.1 ≠ "") := by
  induction params generalizing encoded read with
  | nil =>
      cases h
      have terminator : Bytes.ofTerminated "" = .ok [0] := rfl
      simpa using paramsOnto_end terminator read []
  | cons param params ih =>
      obtain ⟨name, value⟩ := param
      obtain ⟨rawName, rawValue, rest, hn, hv, hr, rfl⟩ := mapM_encodeParam_cons h
      rw [List.flatten_cons, List.append_assoc, List.append_assoc]
      by_cases hne : name = ""
      · subst hne
        rw [paramsOnto_end hn]
        simp
      · rw [paramsOnto_param hne hn hv, ih hr]
        simp [hne]

/-- What a startup message reads as hangs on its version. -/
theorem decodeStartup_encoded {version : Int32} {params : List (String × String)} {body : Bytes}
    (hb : (startup version params).body = .ok body) :
    decodeStartup body =
      if version = Protocol.sslRequestCode then .ok sslRequest
      else if version = Protocol.version3 then
        .ok (startup version (params.takeWhile fun param => param.1 ≠ ""))
      else .error (.unsupportedVersion version) := by
  obtain ⟨encoded, he, hb⟩ := SqlWire.ok_of_bind hb
  cases hb
  unfold decodeStartup
  rw [Reader.int32_gives]
  dsimp only
  rw [paramsOnto_encoded he]
  rfl

/-- Of a message that names the client, only the names and values can be refused. -/
theorem decodeStartup_startup {params : List (String × String)} {body : Bytes}
    (hb : (startup Protocol.version3 params).body = .ok body) {m : FrontendMessage}
    (h : decodeStartup body = .ok m) : ∃ read, m = startup Protocol.version3 read := by
  rw [decodeStartup_encoded hb, if_neg (by decide), if_pos rfl] at h
  cases h
  exact ⟨_, rfl⟩

end FrontendMessage

end SqlWire
