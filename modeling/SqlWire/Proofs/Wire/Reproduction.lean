import Mathlib.Data.List.TakeWhile
import SqlWire.Proofs.Wire.Carried
import SqlWire.Proofs.Wire.Framing

/-!
# What a client makes of a frame is what stood in it

`Reader.Reproduces` is the other direction of `Reader.Gives`: what a reader gives would be written
as the bytes that it took off. Every reader of a field is of this kind. Among the messages of the
server there is one exception, a number of columns or values below zero, which is read as none; a
message that is accepted otherwise is written as the front of the body that it was read from.
-/

namespace SqlWire

namespace Bytes

theorem ofWord16_word16 (a b : UInt8) : ofWord16 (word16 a b) = [a, b] := by
  have ha := a.toNat_lt
  have hb := b.toNat_lt
  simp only [ofWord16, List.cons.injEq, and_true, ← UInt8.toNat_inj, UInt16.toNat_toUInt8,
    UInt16.toNat_shiftRight, word16_toNat, Nat.shiftRight_eq_div_pow, UInt16.toNat_ofNat,
    Nat.reduceMod, Nat.reducePow]
  omega

theorem ofText_text? {raw : Bytes} {s : String} (h : text? raw = some s) : ofText s = raw := by
  unfold text? String.fromUTF8? at h
  split at h
  · cases h
    simp [ofText, String.fromUTF8]
  · cases h

theorem ofWord16_inj {v w : UInt16} (h : ofWord16 v = ofWord16 w) : v = w := by
  rw [← word16_split v, ← word16_split w]
  simp only [ofWord16, List.cons.injEq, and_true] at h
  rw [h.1, h.2]

/-- A word in front of some bytes is the word that the bytes begin with. -/
theorem ofWord16_front {v w : UInt16} {front behind : Bytes}
    (h : ofWord16 v ++ front <+: ofWord16 w ++ behind) : v = w := by
  obtain ⟨more, he⟩ := h
  rw [List.append_assoc] at he
  exact ofWord16_inj (List.append_inj_left he rfl)

/-- A number that is not negative is the count of a list of this length. -/
theorem ofCount_toNat {count : Int16} (h : 0 ≤ count) :
    ofCount count.toInt.toNat = ofWord16 count.toUInt16 := by
  have nonneg : 0 ≤ count.toInt := by simpa using Int16.le_iff_toInt_le.1 h
  have natural : ((count.toInt.toNat : Nat) : Int) = count.toInt := Int.toNat_of_nonneg nonneg
  have word : UInt16.ofNat count.toInt.toNat = count.toUInt16 := by
    rw [← Int16.toUInt16_ofNat', ← Int16.ofInt_eq_ofNat, natural, Int16.ofInt_toInt]
  rw [ofCount, word]

end Bytes

namespace Reader

/-- What the reader gives would be written as the bytes that it took off the front of the body. -/
def Reproduces (r : Reader α) (write : α → Except WireError Bytes) : Prop :=
  ∀ ⦃body rest : Bytes⦄ ⦃a : α⦄, r body = (.ok a, rest) →
    ∃ raw, write a = .ok raw ∧ body = raw ++ rest

theorem byte_took {field : String} {body rest : Bytes} {b : UInt8}
    (h : byte field body = (.ok b, rest)) : body = b :: rest := by
  unfold byte at h
  split at h
  · cases h
    rfl
  · cases h

theorem word16_took {field : String} {body rest : Bytes} {w : UInt16}
    (h : word16 field body = (.ok w, rest)) : body = Bytes.ofWord16 w ++ rest := by
  unfold word16 at h
  split at h
  · cases h
    rw [Bytes.ofWord16_word16]
    rfl
  · cases h

theorem word32_took {field : String} {body rest : Bytes} {w : UInt32}
    (h : word32 field body = (.ok w, rest)) : body = Bytes.ofWord32 w ++ rest := by
  unfold word32 at h
  split at h
  · cases h
    rw [Bytes.ofWord32_word32]
    rfl
  · cases h

theorem int16_took {field : String} {body rest : Bytes} {n : Int16}
    (h : int16 field body = (.ok n, rest)) : body = Bytes.ofWord16 n.toUInt16 ++ rest := by
  obtain ⟨w, left, hw, h⟩ := ok_of_bind h
  cases h
  simpa using word16_took hw

theorem int32_took {field : String} {body rest : Bytes} {n : Int32}
    (h : int32 field body = (.ok n, rest)) : body = Bytes.ofWord32 n.toUInt32 ++ rest := by
  obtain ⟨w, left, hw, h⟩ := ok_of_bind h
  cases h
  simpa using word32_took hw

theorem bytes_took {field : String} {n : Nat} {body rest raw : Bytes}
    (h : bytes field n body = (.ok raw, rest)) : body = raw ++ rest ∧ raw.length = n := by
  unfold bytes at h
  split at h
  · next hn =>
      cases h
      exact ⟨(List.take_append_drop n body).symm, List.length_take_of_le hn⟩
  · cases h

/-- A text ends with the first NUL, so it has none of its own. -/
theorem text_reproduces (field : String) : Reproduces (text field) Bytes.ofTerminated := by
  intro body rest s h
  have split := List.takeWhile_append_dropWhile (p := (· != (0 : UInt8))) (l := body)
  unfold text at h
  split at h
  · cases h
  · next nul tail hd =>
      have head := List.head?_dropWhile_not (· != (0 : UInt8)) body
      rw [hd] at head
      obtain rfl : nul = 0 := by simpa using head
      split at h
      · next hs =>
          cases h
          refine ⟨body.takeWhile (· != 0) ++ [0], Bytes.ofTerminated_eq_ok.2 ?_, ?_⟩
          · rw [Bytes.ofText_text? hs]
            exact ⟨fun hz => by simpa using List.mem_takeWhile_imp hz, rfl⟩
          · rw [List.append_assoc, List.singleton_append, ← hd, split]
      · cases h

/-- The one negative size that is read stands for no value, and so it is written. -/
theorem nullable_reproduces (field : String) :
    Reproduces (nullable field) fun v => .ok (Bytes.ofNullable v) := by
  intro body rest v h
  refine ⟨Bytes.ofNullable v, rfl, ?_⟩
  unfold nullable at h
  obtain ⟨size, left, hs, h⟩ := ok_of_bind h
  have front := int32_took hs
  split at h
  · next hm =>
      cases h
      rw [front, hm]
      rfl
  · split at h
    · cases h
    · next hsign =>
        obtain ⟨raw, _, hr, h⟩ := ok_of_bind h
        cases h
        obtain ⟨rfl, hl⟩ := bytes_took hr
        have nonneg : 0 ≤ size.toInt := by
          rw [Int32.lt_iff_toInt_lt] at hsign
          simpa using hsign
        have natural : ((size.toInt.toNat : Nat) : Int) = size.toInt := Int.toNat_of_nonneg nonneg
        have word : UInt32.ofNat raw.length = size.toUInt32 := by
          rw [hl, ← Int32.toUInt32_ofNat', ← Int32.ofInt_eq_ofNat, natural, Int32.ofInt_toInt]
        rw [front, Bytes.ofNullable, word, List.append_assoc]

/-- So are things one after the other. -/
theorem times_took {r : Reader α} {write : α → Except WireError Bytes} (hr : Reproduces r write)
    {n : Nat} {body rest : Bytes} {as : List α} (h : times n r body = (.ok as, rest)) :
    ∃ raws, as.mapM write = .ok raws ∧ body = raws.flatten ++ rest := by
  induction n generalizing body as with
  | zero =>
      cases h
      exact ⟨[], rfl, rfl⟩
  | succ n ih =>
      rw [times_succ] at h
      obtain ⟨a, left, ha, h⟩ := ok_of_bind h
      obtain ⟨more, _, hm, h⟩ := ok_of_bind h
      cases h
      obtain ⟨raw, hraw, rfl⟩ := hr ha
      obtain ⟨raws, hraws, rfl⟩ := ih hm
      refine ⟨raw :: raws, ?_, (List.append_assoc _ _ _).symm⟩
      rw [List.mapM_cons, hraw, hraws]
      rfl

end Reader

open Reader

theorem FieldDescription.reader_reproduces :
    Reproduces FieldDescription.reader FieldDescription.encode := by
  intro body rest f h
  obtain ⟨name, _, hname, h⟩ := Reader.ok_of_bind h
  obtain ⟨tableOid, _, htable, h⟩ := Reader.ok_of_bind h
  obtain ⟨columnId, _, hcolumn, h⟩ := Reader.ok_of_bind h
  obtain ⟨typeOid, _, htype, h⟩ := Reader.ok_of_bind h
  obtain ⟨typeSize, _, hsize, h⟩ := Reader.ok_of_bind h
  obtain ⟨typeModifier, _, hmodifier, h⟩ := Reader.ok_of_bind h
  obtain ⟨format, _, hformat, h⟩ := Reader.ok_of_bind h
  cases h
  obtain ⟨raw, hraw, rfl⟩ := text_reproduces _ hname
  obtain rfl := word32_took htable
  obtain rfl := int16_took hcolumn
  obtain rfl := word32_took htype
  obtain rfl := int16_took hsize
  obtain rfl := int32_took hmodifier
  obtain rfl := int16_took hformat
  refine ⟨_, by rw [encode, hraw]; rfl, ?_⟩
  simp only [List.append_assoc]

def Frame.CountsBelowZero (frame : Frame) : Prop :=
  (frame.tag = 'T'.toUInt8 ∨ frame.tag = 'D'.toUInt8) ∧
    ∃ count : Int16, count < 0 ∧ Bytes.ofWord16 count.toUInt16 <+: frame.body

theorem Frame.countsBelowZero_iff {tag : UInt8} (ht : tag = 'T'.toUInt8 ∨ tag = 'D'.toUInt8)
    (count : Int16) (behind : Bytes) :
    CountsBelowZero ⟨tag, Bytes.ofWord16 count.toUInt16 ++ behind⟩ ↔ count < 0 := by
  constructor
  · intro h
    obtain ⟨-, other, hneg, hfront⟩ := h
    rw [← List.append_nil (Bytes.ofWord16 other.toUInt16)] at hfront
    have same : other = count := by
      simpa using congrArg UInt16.toInt16 (Bytes.ofWord16_front hfront)
    rwa [← same]
  · exact fun h => ⟨ht, count, h, List.prefix_append _ _⟩

/-- Entries are written behind the number with which they were announced, unless it is below
zero: then the number 0 is written. -/
theorem Bytes.counted_front_iff (count : Int16) (entries rest : Bytes) :
    ofCount count.toInt.toNat ++ entries <+: ofWord16 count.toUInt16 ++ (entries ++ rest) ↔
      ¬count < 0 := by
  constructor
  · intro h hneg
    have same : UInt16.ofNat count.toInt.toNat = count.toUInt16 := ofWord16_front h
    have below : count.toInt < 0 := by simpa using Int16.lt_iff_toInt_lt.1 hneg
    rw [Int.toNat_of_nonpos (Int.le_of_lt below)] at same
    have zero : count = 0 := by simpa using (congrArg UInt16.toInt16 same).symm
    exact Int16.lt_irrefl (zero ▸ hneg)
  · intro h
    rw [ofCount_toNat (Int16.not_lt.1 h)]
    exact ⟨rest, by rw [List.append_assoc]⟩

namespace BackendMessage

/-- The message is written under the letter of the frame, and what is written is the front of its
body unless the frame counts below zero. -/
def WrittenBack (frame : Frame) (m : BackendMessage) : Prop :=
  m.tag.toUInt8 = frame.tag ∧ ∃ raw, m.body = .ok raw ∧ raw.length ≤ frame.body.length ∧
    (raw <+: frame.body ↔ ¬frame.CountsBelowZero)

theorem tag_eq {tag : UInt8} {c : Char} (h : Char.ofUInt8 tag = c) : tag = c.toUInt8 := by
  subst h
  change tag = tag.toUInt32.toUInt8
  simp

/-- A message without a count is read off the front of a body as it is written. -/
theorem WrittenBack.of_front {tag : UInt8} {c : Char} {m : BackendMessage} {raw rest : Bytes}
    (ht : Char.ofUInt8 tag = c) (hc : c ≠ 'T' ∧ c ≠ 'D') (hm : m.tag = c)
    (hb : m.body = .ok raw) : WrittenBack ⟨tag, raw ++ rest⟩ m := by
  refine ⟨?_, raw, hb, by simp, ?_⟩
  · rw [hm]
    exact (tag_eq ht).symm
  · have uncounted : ¬Frame.CountsBelowZero ⟨tag, raw ++ rest⟩ := by
      intro h
      obtain ⟨rfl | rfl, -⟩ := h
      · exact hc.1 (ht.symm.trans rfl)
      · exact hc.2 (ht.symm.trans rfl)
    exact iff_of_true (List.prefix_append raw rest) uncounted

/-- A message with a count is read off the front of a body as it is written, but for the count. -/
theorem WrittenBack.of_count {tag : UInt8} {c : Char} {m : BackendMessage} {count : Int16}
    {entries rest : Bytes} (ht : Char.ofUInt8 tag = c) (hc : c = 'T' ∨ c = 'D') (hm : m.tag = c)
    (hb : m.body = .ok (Bytes.ofCount count.toInt.toNat ++ entries)) :
    WrittenBack ⟨tag, Bytes.ofWord16 count.toUInt16 ++ (entries ++ rest)⟩ m := by
  have counted : tag = 'T'.toUInt8 ∨ tag = 'D'.toUInt8 := by
    rw [tag_eq ht]
    exact hc.imp (congrArg Char.toUInt8) (congrArg Char.toUInt8)
  refine ⟨?_, _, hb, by simp [Bytes.ofCount, Bytes.ofWord16], ?_⟩
  · rw [hm]
    exact (tag_eq ht).symm
  · rw [Bytes.counted_front_iff, Frame.countsBelowZero_iff counted]

theorem status_took {b : UInt8} {status : TransactionStatus}
    (h : TransactionStatus.ofByte b = .ok status) : status.toByte = b := by
  unfold TransactionStatus.ofByte at h
  split at h
  · next hb =>
      cases h
      exact (tag_eq hb).symm
  · next hb =>
      cases h
      exact (tag_eq hb).symm
  · next hb =>
      cases h
      exact (tag_eq hb).symm
  · cases h

theorem authenticationReader_reproduces {body rest : Bytes} {m : BackendMessage}
    (h : authenticationReader body = (.ok m, rest)) :
    m.tag = 'R' ∧ ∃ raw, m.body = .ok raw ∧ body = raw ++ rest := by
  obtain ⟨code, _, hcode, h⟩ := Reader.ok_of_bind h
  have front := int32_took hcode
  split at h
  · next hc =>
      cases h
      rw [hc] at front
      exact ⟨rfl, _, rfl, front⟩
  split at h
  · next hc =>
      cases h
      rw [hc] at front
      exact ⟨rfl, _, rfl, front⟩
  split at h
  · next hc =>
      obtain ⟨s0, _, h0, h⟩ := Reader.ok_of_bind h
      obtain ⟨s1, _, h1, h⟩ := Reader.ok_of_bind h
      obtain ⟨s2, _, h2, h⟩ := Reader.ok_of_bind h
      obtain ⟨s3, _, h3, h⟩ := Reader.ok_of_bind h
      cases h
      rw [hc, byte_took h0, byte_took h1, byte_took h2, byte_took h3] at front
      exact ⟨rfl, _, rfl, front⟩
  · cases h
    exact ⟨rfl, _, rfl, front⟩

def ReadsBack (tag : UInt8) (r : Reader BackendMessage) : Prop :=
  ∀ ⦃body rest : Bytes⦄ ⦃m : BackendMessage⦄, r body = (.ok m, rest) → WrittenBack ⟨tag, body⟩ m

/-- A message without fields takes nothing off the body. -/
theorem ReadsBack.pure {tag : UInt8} {c : Char} {m : BackendMessage} (ht : Char.ofUInt8 tag = c)
    (hc : c ≠ 'T' ∧ c ≠ 'D') (hm : m.tag = c) (hb : m.body = .ok []) :
    ReadsBack tag (pure m) := by
  intro body rest _ h
  cases h
  exact .of_front ht hc hm hb

theorem authentication_readsBack {tag : UInt8} (ht : Char.ofUInt8 tag = 'R') :
    ReadsBack tag authenticationReader := by
  intro body rest m h
  obtain ⟨hm, raw, hb, rfl⟩ := authenticationReader_reproduces h
  exact .of_front ht (by decide) hm hb

theorem parameterStatus_readsBack {tag : UInt8} (ht : Char.ofUInt8 tag = 'S') :
    ReadsBack tag (do
      let name ← text "parameter name"
      let value ← text "parameter value"
      return parameterStatus name value) := by
  intro body rest m h
  obtain ⟨name, _, hname, h⟩ := Reader.ok_of_bind h
  obtain ⟨value, _, hvalue, h⟩ := Reader.ok_of_bind h
  cases h
  obtain ⟨front, hfront, rfl⟩ := text_reproduces _ hname
  obtain ⟨back, hback, rfl⟩ := text_reproduces _ hvalue
  rw [← List.append_assoc]
  refine .of_front ht (by decide) rfl ?_
  rw [BackendMessage.body, hfront, hback]
  rfl

theorem readyForQuery_readsBack {tag : UInt8} (ht : Char.ofUInt8 tag = 'Z') :
    ReadsBack tag (do
      let status ← byte "transaction status"
      return readyForQuery (← TransactionStatus.ofByte status)) := by
  intro body rest m h
  obtain ⟨b, left, hb, h⟩ := Reader.ok_of_bind h
  obtain ⟨status, _, hs, h⟩ := Reader.ok_of_bind h
  cases h
  have taken : TransactionStatus.ofByte b = .ok status := congrArg Prod.fst hs
  have behind : left = rest := congrArg Prod.snd hs
  rw [byte_took hb, ← status_took taken, behind]
  change WrittenBack ⟨tag, [status.toByte] ++ rest⟩ (readyForQuery status)
  exact .of_front ht (by decide) rfl rfl

theorem rowDescription_readsBack {tag : UInt8} (ht : Char.ofUInt8 tag = 'T') :
    ReadsBack tag (do
      let count ← int16 "field count"
      return rowDescription (← times count.toInt.toNat FieldDescription.reader)) := by
  intro body rest m h
  obtain ⟨count, left, hcount, h⟩ := Reader.ok_of_bind h
  obtain ⟨fields, _, hfields, h⟩ := Reader.ok_of_bind h
  cases h
  have length : fields.length = count.toInt.toNat := times_length hfields
  obtain ⟨encoded, hencoded, hleft⟩ := times_took FieldDescription.reader_reproduces hfields
  rw [int16_took hcount, hleft]
  refine .of_count ht (.inl rfl) rfl ?_
  rw [BackendMessage.body, ← length, hencoded]
  rfl

theorem dataRow_readsBack {tag : UInt8} (ht : Char.ofUInt8 tag = 'D') :
    ReadsBack tag (do
      let count ← int16 "column count"
      return dataRow (← times count.toInt.toNat (nullable "column value"))) := by
  intro body rest m h
  obtain ⟨count, left, hcount, h⟩ := Reader.ok_of_bind h
  obtain ⟨values, _, hvalues, h⟩ := Reader.ok_of_bind h
  cases h
  have length : values.length = count.toInt.toNat := times_length hvalues
  obtain ⟨encoded, hencoded, hleft⟩ := times_took (nullable_reproduces _) hvalues
  have each : encoded = values.map Bytes.ofNullable := by
    have mapped : values.mapM (fun v => Except.ok (ε := WireError) (Bytes.ofNullable v))
        = .ok (values.map Bytes.ofNullable) := List.mapM_pure
    exact Except.ok.inj (hencoded.symm.trans mapped)
  rw [int16_took hcount, hleft, each]
  refine .of_count ht (.inr rfl) rfl ?_
  rw [BackendMessage.body, ← length, List.flatMap_def]

/-- Each letter has its reader, and what it accepts is written back. -/
theorem reader_readsBack {tag : UInt8} (he : tag ≠ 'E'.toUInt8) (hn : tag ≠ 'N'.toUInt8) :
    ReadsBack tag (reader tag) := by
  unfold reader
  split
  · next ht => exact authentication_readsBack ht
  · next ht => exact parameterStatus_readsBack ht
  · next ht =>
      intro body rest m h
      obtain ⟨processId, _, hid, h⟩ := Reader.ok_of_bind h
      obtain ⟨secretKey, _, hkey, h⟩ := Reader.ok_of_bind h
      cases h
      rw [int32_took hid, int32_took hkey, ← List.append_assoc]
      exact .of_front ht (by decide) rfl rfl
  · next ht => exact readyForQuery_readsBack ht
  · next ht => exact rowDescription_readsBack ht
  · next ht => exact dataRow_readsBack ht
  · next ht =>
      intro body rest m h
      obtain ⟨text, _, htext, h⟩ := Reader.ok_of_bind h
      cases h
      obtain ⟨raw, hraw, rfl⟩ := text_reproduces _ htext
      exact .of_front ht (by decide) rfl hraw
  · next ht => exact .pure ht (by decide) rfl rfl
  · next ht => exact absurd (tag_eq ht) he
  · next ht => exact absurd (tag_eq ht) hn
  · next ht => exact .pure ht (by decide) rfl rfl
  · next ht => exact .pure ht (by decide) rfl rfl
  · next ht => exact .pure ht (by decide) rfl rfl
  · next ht => exact .pure ht (by decide) rfl rfl
  · intro body rest m h
    cases h

/-- What is accepted of a frame is written as a frame with the same letter, if the body had a size
that a frame may have; and what is written is the front of the body, so nothing in it was read as
something else, exactly if the frame does not count below zero. Reports, of which fields are dropped
and put in order, are left out. -/
theorem accepted_is_front_iff {frame : Frame} {m : BackendMessage}
    (he : frame.tag ≠ 'E'.toUInt8) (hn : frame.tag ≠ 'N'.toUInt8) (h : decode frame = .ok m) :
    ∃ raw, m.body = .ok raw ∧ m.encode = Frame.tagged frame.tag raw ∧
      (frame.body.length ≤ Frame.maxBody → ∃ bytes, m.encode = .ok bytes) ∧
      (raw <+: frame.body ↔ ¬frame.CountsBelowZero) := by
  have run : reader frame.tag frame.body = (.ok m, (reader frame.tag frame.body).2) :=
    Prod.ext h rfl
  obtain ⟨htag, raw, hb, hl, front⟩ := reader_readsBack he hn run
  have framed : m.encode = Frame.tagged frame.tag raw := by
    rw [encode, hb, ← htag]
    rfl
  refine ⟨raw, hb, framed, ?_, front⟩
  intro bounded
  rw [framed]
  exact Frame.exists_tagged.2 (hl.trans bounded)

/-- A row of one value with a byte behind it: the byte is not part of the message, and the number 1
in front of the value is not below zero. -/
theorem accepted_is_front_one_value :
    let frame : Frame := ⟨'D'.toUInt8, [0, 1, 0, 0, 0, 1, 120, 9]⟩
    let m := dataRow [some [120]]
    frame.tag ≠ 'E'.toUInt8 ∧ frame.tag ≠ 'N'.toUInt8 ∧ decode frame = .ok m ∧
      ∃ raw, m.body = .ok raw ∧ m.encode = Frame.tagged frame.tag raw ∧
        (frame.body.length ≤ Frame.maxBody → ∃ bytes, m.encode = .ok bytes) ∧
        (raw <+: frame.body ↔ ¬frame.CountsBelowZero) := by
  intro frame m
  have read : decode frame = .ok m := rfl
  exact ⟨by decide, by decide, read, accepted_is_front_iff (by decide) (by decide) read⟩

/-- The columns of a frame that announces -1 of them are read as no columns, and these are written
with another number in front. -/
theorem count_below_zero_accepted :
    decode ⟨'T'.toUInt8, [255, 255]⟩ = .ok (rowDescription []) ∧
      (rowDescription []).body = .ok [0, 0] ∧ ¬[0, 0] <+: [255, 255] :=
  ⟨rfl, rfl, by decide⟩

end BackendMessage

end SqlWire
