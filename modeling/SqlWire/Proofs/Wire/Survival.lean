import Mathlib.Data.List.TakeWhile
import SqlWire.Proofs.Wire.Carried
import SqlWire.Proofs.Wire.Framing

/-!
# Messages that survive the wire

A message survives if it can be written and is read back from what was written: one frame, nothing
behind it, and the message inside. The messages that survive are those that are carried, in both
directions of a connection. What goes wrong with any other message is that it has no form as
bytes, that its count announces fewer entries, or that its fields read as another message.
-/

namespace SqlWire

theorem FrameBuffer.next_tagged {tag : UInt8} {body bytes : Bytes}
    (h : Frame.tagged tag body = .ok bytes) :
    next (extend empty bytes) = (.ok (some ⟨tag, body⟩), empty) := by
  apply next_eq_some.2
  have hn := Frame.next_tagged h []
  rwa [List.append_nil] at hn

theorem FrameBuffer.nextUntagged_untagged {body bytes : Bytes}
    (h : Frame.untagged body = .ok bytes) :
    nextUntagged (extend empty bytes) = (.ok (some body), empty) := by
  have hn := Frame.nextUntagged_untagged h []
  rw [List.append_nil] at hn
  simp [nextUntagged, extend, empty, hn]

/-- Bytes that spell messages are taken off as one frame for each of them. -/
theorem Spells.drain {bytes : Bytes} {ms : List BackendMessage} (h : Spells bytes ms) :
    ∃ frames, FrameBuffer.drain bytes = ⟨frames, .ok FrameBuffer.empty⟩ ∧
      frames.mapM BackendMessage.decode = .ok ms := by
  induction h with
  | nil => exact ⟨[], FrameBuffer.drain_none Frame.next_nil, rfl⟩
  | @cons bytes rest frame m ms taken read _ ih =>
      obtain ⟨frames, hd, hm⟩ := ih
      exists frame :: frames
      constructor
      · rw [FrameBuffer.drain_some taken, hd]
      · rw [List.mapM_cons, read, hm]
        rfl

namespace BackendMessage

/-- The message can be written, and a buffer into which this is put gives one frame, is empty
then, and the frame holds the message. -/
def Survives (m : BackendMessage) : Prop :=
  ∃ bytes frame, m.encode = .ok bytes ∧
    FrameBuffer.next (FrameBuffer.extend FrameBuffer.empty bytes) =
      (.ok (some frame), FrameBuffer.empty) ∧
    decode frame = .ok m

/-- A request to authenticate that reads back as itself does not name one of the known ways. -/
theorem plain_of_decode {m : BackendMessage} {raw : Bytes} (hb : m.body = .ok raw)
    (hd : decode ⟨m.tag.toUInt8, raw⟩ = .ok m) : m.Plain := by
  cases m with
  | authenticationOther code =>
      cases hb
      refine ⟨?_, ?_, ?_⟩ <;> (rintro rfl; exact absurd hd (by decide))
  | _ => trivial

theorem Survives.carried {m : BackendMessage} (h : m.Survives) : m.Carried := by
  obtain ⟨bytes, frame, he, hn, hd⟩ := h
  obtain ⟨raw, hb, ht⟩ := encode_eq_ok he
  have hl := (Frame.tagged_eq_ok ht).1
  rw [FrameBuffer.next_tagged ht] at hn
  cases hn
  have hp := plain_of_decode hb hd
  have hr := decode_body hp hb hl
  rw [hd, Except.ok.injEq] at hr
  exact ⟨hp, .of_body (m.exists_body.1 ⟨raw, hb⟩) (m.received_eq_iff.1 hr.symm) hb hl⟩

theorem Carried.survives {m : BackendMessage} (h : m.Carried) : m.Survives := by
  obtain ⟨raw, bytes, hb, -, he, ht⟩ := h.encodes
  exact ⟨bytes, _, he, FrameBuffer.next_tagged ht, (h.reader_gives hb).read⟩

/-- Messages that are carried, one behind the other, are spelled by their bytes. -/
theorem spells_of_carried {ms : List BackendMessage} (h : ∀ m ∈ ms, m.Carried) :
    ∃ parts, ms.mapM encode = .ok parts ∧ Spells parts.flatten ms := by
  induction ms with
  | nil => exact ⟨[], rfl, .nil⟩
  | cons m ms ih =>
      obtain ⟨hm, hms⟩ := List.forall_mem_cons.1 h
      obtain ⟨parts, hp, hs⟩ := ih hms
      obtain ⟨raw, bytes, hb, hl, he, ht⟩ := hm.encodes
      have hf := Spells.of_encode hm.1 he
      rw [(received_eq_iff m).2 hm.2.counted] at hf
      refine ⟨bytes :: parts, ?_, hf.append hs⟩
      rw [List.mapM_cons, he, hp]
      rfl

end BackendMessage

open FrameBuffer in
/-- A message of the server survives the wire exactly if it is carried: no text of it has a NUL,
its list has at most 32767 entries, it is no request to authenticate in another way that names
one of the known ways, and its body fits a frame. Messages that are carried survive one behind
the other. -/
theorem backend_survives_iff :
    (∀ m : BackendMessage, m.Survives ↔ m.Carried) ∧
    ∀ ms : List BackendMessage, (∀ m ∈ ms, m.Carried) →
      ∃ parts frames, ms.mapM BackendMessage.encode = .ok parts ∧
        drain (extend empty parts.flatten) = ⟨frames, .ok empty⟩ ∧
        frames.mapM BackendMessage.decode = .ok ms := by
  constructor
  · intro m
    exact ⟨BackendMessage.Survives.carried, BackendMessage.Carried.survives⟩
  · intro ms h
    obtain ⟨parts, hp, hs⟩ := BackendMessage.spells_of_carried h
    obtain ⟨frames, hd, hm⟩ := hs.drain
    exact ⟨parts, frames, hp, hd, hm⟩

open FrameBuffer in
/-- A row with an absent value, the end of its statement, and the report behind it. -/
theorem backend_survives_iff_row :
    let ms : List BackendMessage :=
      [.dataRow [some [49], none], .commandComplete "SELECT 1", .readyForQuery .idle]
    (∀ m ∈ ms, m.Carried) ∧
      ∃ parts frames, ms.mapM BackendMessage.encode = .ok parts ∧
        drain (extend empty parts.flatten) = ⟨frames, .ok empty⟩ ∧
        frames.mapM BackendMessage.decode = .ok ms := by
  intro ms
  have carried : ∀ m ∈ ms, m.Carried := by
    intro m hm
    simp only [ms, List.mem_cons, List.not_mem_nil, or_false] at hm
    rcases hm with rfl | rfl | rfl <;>
      exact ⟨trivial, .of_body (by decide) (by decide) rfl (by decide)⟩
  exact ⟨carried, backend_survives_iff.2 ms carried⟩

namespace FrontendMessage

def decodeBehind (tag? : Option Char) (raw : Bytes) : Except WireError FrontendMessage :=
  match tag? with
  | some tag => decode ⟨tag.toUInt8, raw⟩
  | none => decodeStartup raw

/-- The message can be written, and a buffer into which this is put gives one frame, or one body
where there is no tag, is empty then, and what it gave holds the message. -/
def Survives (m : FrontendMessage) : Prop :=
  ∃ bytes, m.encode = .ok bytes ∧
    match m.tag? with
    | some _ => ∃ frame,
      FrameBuffer.next (FrameBuffer.extend FrameBuffer.empty bytes) =
        (.ok (some frame), FrameBuffer.empty) ∧
      decode frame = .ok m
    | none => ∃ raw,
      FrameBuffer.nextUntagged (FrameBuffer.extend FrameBuffer.empty bytes) =
        (.ok (some raw), FrameBuffer.empty) ∧
      decodeStartup raw = .ok m

theorem Survives.read {m : FrontendMessage} (h : m.Survives) :
    ∃ raw, m.body = .ok raw ∧ raw.length ≤ Frame.maxBody ∧ decodeBehind m.tag? raw = .ok m := by
  obtain ⟨bytes, he, hs⟩ := h
  obtain ⟨raw, hb, ht⟩ := ok_of_bind he
  refine ⟨raw, hb, ?_⟩
  cases htag : m.tag? with
  | none =>
      rw [htag] at ht hs
      obtain ⟨raw', hn, hd⟩ := hs
      rw [FrameBuffer.nextUntagged_untagged ht] at hn
      cases hn
      exact ⟨(Frame.untagged_eq_ok ht).1, hd⟩
  | some tag =>
      rw [htag] at ht hs
      obtain ⟨frame, hn, hd⟩ := hs
      rw [FrameBuffer.next_tagged ht] at hn
      cases hn
      exact ⟨(Frame.tagged_eq_ok ht).1, hd⟩

/-- A startup message that reads back as itself asks for version 3.0 and names its parameters. -/
theorem plain_of_decode {m : FrontendMessage} {raw : Bytes} (hb : m.body = .ok raw)
    (hd : decodeBehind m.tag? raw = .ok m) : m.Plain := by
  cases m with
  | startup version params =>
      simp only [tag?, decodeBehind, decodeStartup_encoded hb] at hd
      split at hd
      · cases hd
      · split at hd
        · next hv =>
            simp only [Except.ok.injEq, startup.injEq, true_and] at hd
            rw [List.takeWhile_eq_self_iff] at hd
            refine ⟨hv, ?_⟩
            intro param hm
            simpa using hd param hm
        · cases hd
  | _ => trivial

/-- A list that reads back as itself was not longer than its count could say. -/
theorem counted_of_decode {m : FrontendMessage} {raw : Bytes} (hb : m.body = .ok raw)
    (hd : decodeBehind m.tag? raw = .ok m) : m.entries ≤ 32767 := by
  rw [← Bytes.le_announced_iff]
  cases m with
  | parse name sql types =>
      have hp := decode_parse hb
      rw [show decode ⟨'P'.toUInt8, raw⟩ = .ok (parse name sql types) from hd] at hp
      simp only [Except.ok.injEq, parse.injEq, true_and] at hp
      rw [entries, ← List.take_eq_self_iff]
      exact hp.symm
  | bind portal statement params =>
      obtain ⟨read, hm, hl⟩ := decode_bind_length hb hd
      cases hm
      exact Nat.le_of_eq hl
  | _ => exact Nat.zero_le _

theorem Survives.carried {m : FrontendMessage} (h : m.Survives) : m.Carried := by
  obtain ⟨raw, hb, hl, hd⟩ := h.read
  have hn := m.exists_body.1 ⟨raw, hb⟩
  exact ⟨plain_of_decode hb hd, .of_body hn (counted_of_decode hb hd) hb hl⟩

theorem Carried.decodeBehind {m : FrontendMessage} (h : m.Carried) {raw : Bytes}
    (hb : m.body = .ok raw) : decodeBehind m.tag? raw = .ok m := by
  cases ht : m.tag? with
  | some tag => exact (h.reader_gives ht hb).read
  | none =>
      cases m with
      | sslRequest => cases hb; rfl
      | startup version params =>
          obtain ⟨⟨rfl, hn⟩, -⟩ := h
          rw [FrontendMessage.decodeBehind, decodeStartup_encoded hb, if_neg (by decide),
            if_pos rfl, List.takeWhile_eq_self_iff.2 (by simpa using hn)]
      | _ => cases ht

theorem Carried.survives {m : FrontendMessage} (h : m.Carried) : m.Survives := by
  obtain ⟨raw, bytes, hb, -, he, hf⟩ := h.encodes
  have hd := h.decodeBehind hb
  refine ⟨bytes, he, ?_⟩
  cases ht : m.tag? with
  | none =>
      rw [ht] at hd hf
      exact ⟨raw, FrameBuffer.nextUntagged_untagged hf, hd⟩
  | some tag =>
      rw [ht] at hd hf
      exact ⟨_, FrameBuffer.next_tagged hf, hd⟩

end FrontendMessage

/-- A message of the client survives the wire exactly if it is carried: no text of it has a NUL,
its list has at most 32767 entries, its body fits a frame, and if it is a startup message, it asks
for version 3.0 and gives every parameter a name. The request for encryption always survives. -/
theorem frontend_survives_iff :
    (∀ m : FrontendMessage, m.Survives ↔ m.Carried) ∧ FrontendMessage.sslRequest.Survives := by
  have survives_iff (m : FrontendMessage) : m.Survives ↔ m.Carried :=
    ⟨FrontendMessage.Survives.carried, FrontendMessage.Carried.survives⟩
  refine ⟨survives_iff, ?_⟩
  rw [survives_iff]
  exact ⟨trivial, .of_body (by simp [FrontendMessage.texts]) (Nat.zero_le _) rfl (by decide)⟩

end SqlWire
