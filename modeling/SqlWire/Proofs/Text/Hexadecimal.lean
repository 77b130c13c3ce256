import SqlWire.Text.Ascii
import SqlWire.Text.Hex

/-!
# Hexadecimal text is read exactly

Text is read if it has an even number of bytes and each of them is a digit, and it is read as the
bytes that are written as this text in lower case. Reading goes by characters and the condition by
bytes; the two agree because a character beyond ASCII, which is no digit, has a byte that is none.
-/

namespace SqlWire.Text

/-- What holds of the codes below 128 holds of the characters of ASCII. -/
theorem ascii_all {P : Char → Prop} (h : ∀ n : Fin 128, P (Char.ofNat n)) {c : Char}
    (hc : c.toNat < 128) : P c := by
  have := h ⟨c.toNat, hc⟩
  rwa [Char.ofNat_toNat] at this

namespace Hex

/-- What holds of the numbers below a bound holds of the bytes below it. -/
theorem bytes_below {bound : Nat} {P : UInt8 → Prop} (h : ∀ n : Fin bound, P (UInt8.ofNat n))
    {b : UInt8} (hb : b.toNat < bound) : P b := by
  have := h ⟨b.toNat, hb⟩
  rwa [UInt8.ofNat_toNat] at this

/-! ## Digits -/

/-- Each of the sixteen digits reads back. -/
theorem value?_digit {n : UInt8} (h : n.toNat < 16) : value? (digit n) = some n :=
  bytes_below (P := fun n => value? (digit n) = some n) (by decide) h

theorem digit_eq_digitChar {n : UInt8} (h : n.toNat < 16) : digit n = Nat.digitChar n.toNat :=
  bytes_below (P := fun n => digit n = Nat.digitChar n.toNat) (by decide) h

variable {c : Char}

theorem value?_beyond_ascii (h : 128 ≤ c.toNat) : value? c = none := by
  have beyond {d : Char} (hd : d.toNat < 128) : ¬c ≤ d := fun hc =>
    absurd (Nat.le_trans h (UInt32.le_iff_toNat_le.1 hc)) (Nat.not_le.2 hd)
  unfold value?
  rw [if_neg fun hc => beyond (by decide) hc.2, if_neg fun hc => beyond (by decide) hc.2,
    if_neg fun hc => beyond (by decide) hc.2]

/-- A digit has the same value in either case. -/
theorem value?_toLower (c : Char) : value? c.toLower = value? c := by
  rcases Nat.lt_or_ge c.toNat 128 with h | h
  · exact ascii_all (P := fun c => value? c.toLower = value? c) (by decide +kernel) h
  · have caseless : c.toLower = c := dif_neg fun hc =>
      absurd (Nat.le_trans h (UInt32.le_iff_toNat_le.1 hc.2)) (by decide)
    rw [caseless]

/-- A character with a value is the digit for this value, but for its case. -/
theorem digit_of_value? {n : UInt8} (h : value? c = some n) :
    n.toNat < 16 ∧ digit n = c.toLower := by
  rcases Nat.lt_or_ge c.toNat 128 with hc | hc
  · have all : ∀ n ∈ value? c, n.toNat < 16 ∧ digit n = c.toLower :=
      ascii_all (P := fun c => ∀ n ∈ value? c, n.toNat < 16 ∧ digit n = c.toLower)
        (by decide +kernel) hc
    exact all n h
  · rw [value?_beyond_ascii hc] at h
    cases h

/-! ## The two halves of a byte -/

theorem high_toNat (b : UInt8) : (b >>> 4).toNat = b.toNat / 16 :=
  bytes_below (P := fun b => (b >>> 4).toNat = b.toNat / 16) (by decide +kernel) b.toNat_lt

theorem low_toNat (b : UInt8) : (b &&& 15).toNat = b.toNat % 16 :=
  bytes_below (P := fun b => (b &&& 15).toNat = b.toNat % 16) (by decide +kernel) b.toNat_lt

theorem high_lt (b : UInt8) : (b >>> 4).toNat < 16 := by
  have := b.toNat_lt
  rw [high_toNat]
  omega

theorem low_lt (b : UInt8) : (b &&& 15).toNat < 16 := by
  rw [low_toNat]
  omega

/-- A byte is put together again from its halves. -/
theorem halves (b : UInt8) : (b >>> 4) <<< 4 ||| (b &&& 15) = b :=
  bytes_below (P := fun b => (b >>> 4) <<< 4 ||| (b &&& 15) = b) (by decide +kernel) b.toNat_lt

/-- What a byte is put together from are its halves. -/
theorem halves_join {h l : UInt8} (hh : h.toNat < 16) (hl : l.toNat < 16) :
    (h <<< 4 ||| l) >>> 4 = h ∧ (h <<< 4 ||| l) &&& 15 = l := by
  have all : ∀ h l : Fin 16,
      (UInt8.ofNat h <<< 4 ||| UInt8.ofNat l) >>> 4 = UInt8.ofNat h ∧
        (UInt8.ofNat h <<< 4 ||| UInt8.ofNat l) &&& 15 = UInt8.ofNat l := by decide +kernel
  have := all ⟨h.toNat, hh⟩ ⟨l.toNat, hl⟩
  rwa [UInt8.ofNat_toNat, UInt8.ofNat_toNat] at this

/-! ## Written text -/

theorem digits_append (front behind : Bytes) :
    digits (front ++ behind) = digits front ++ digits behind :=
  List.flatMap_append

/-- A byte is written as its two digits to the base sixteen, the higher one first. -/
theorem toList_encode (bytes : Bytes) : (encode bytes).toList =
    bytes.flatMap fun b => [Nat.digitChar (b.toNat / 16), Nat.digitChar (b.toNat % 16)] := by
  have pair (b : UInt8) : [digit (b >>> 4), digit (b &&& 15)] =
      [Nat.digitChar (b.toNat / 16), Nat.digitChar (b.toNat % 16)] := by
    rw [digit_eq_digitChar (high_lt b), digit_eq_digitChar (low_lt b), high_toNat, low_toNat]
  unfold encode digits
  rw [String.toList_ofList, funext pair]

theorem bytesOnto_digits (read bytes : Bytes) :
    bytesOnto read (digits bytes) = some (read.reverse ++ bytes) := by
  induction bytes generalizing read with
  | nil =>
      rw [List.append_nil]
      rfl
  | cons b bytes ih =>
      have high := value?_digit (high_lt b)
      have low := value?_digit (low_lt b)
      change bytesOnto read (digit (b >>> 4) :: digit (b &&& 15) :: digits bytes) = _
      simp only [bytesOnto, high, low, halves, ih, List.reverse_cons, List.append_assoc,
        List.singleton_append]

theorem decode_encode (bytes : Bytes) : decode (encode bytes) = some bytes := by
  unfold decode encode
  rw [String.toList_ofList]
  exact bytesOnto_digits [] bytes

/-! ## What text is read as -/

theorem digits_join {high low : Char} {h l : UInt8} (hh : value? high = some h)
    (hl : value? low = some l) : digits [h <<< 4 ||| l] = [high.toLower, low.toLower] := by
  obtain ⟨h_lt, h_digit⟩ := digit_of_value? hh
  obtain ⟨l_lt, l_digit⟩ := digit_of_value? hl
  obtain ⟨upper, lower⟩ := halves_join h_lt l_lt
  change [digit ((h <<< 4 ||| l) >>> 4), digit ((h <<< 4 ||| l) &&& 15)] = _
  rw [upper, lower, h_digit, l_digit]

/-- The bytes that are read are written as the text that they were read from, in lower case. -/
theorem digits_of_bytesOnto {read bytes : Bytes} {text : List Char}
    (h : bytesOnto read text = some bytes) :
    digits bytes = digits read.reverse ++ text.map Char.toLower := by
  fun_induction bytesOnto read text with
  | case1 read =>
      cases h
      rw [List.map_nil, List.append_nil]
  | case2 read c => cases h
  | case3 read high low rest h' l' hl hh ih =>
      rw [ih h, List.reverse_cons, digits_append, digits_join hh hl, List.append_assoc]
      rfl
  | case4 read high low rest unread => cases h

theorem bytesOnto_map_toLower (read : Bytes) (text : List Char) :
    bytesOnto read (text.map Char.toLower) = bytesOnto read text := by
  fun_induction bytesOnto read text with
  | case1 read => rfl
  | case2 read c => rfl
  | case3 read high low rest h l hl hh ih =>
      simp only [List.map_cons, bytesOnto, value?_toLower, hh, hl, ih]
  | case4 read high low rest unread =>
      simp only [List.map_cons, bytesOnto, value?_toLower]

/-- Each byte string has one written form, and what is read differs from it in case only. -/
theorem decode_eq_some_iff {s : String} {bytes : Bytes} :
    decode s = some bytes ↔ encode bytes = lower s := by
  unfold decode encode lower
  rw [String.ofList_inj]
  constructor
  · exact digits_of_bytesOnto
  · intro h
    rw [← bytesOnto_map_toLower, ← h]
    exact bytesOnto_digits [] bytes

/-! ## Which text is read -/

def IsDigit (b : UInt8) : Prop :=
  '0'.toUInt8 ≤ b ∧ b ≤ '9'.toUInt8 ∨ 'A'.toUInt8 ≤ b ∧ b ≤ 'F'.toUInt8 ∨
    'a'.toUInt8 ≤ b ∧ b ≤ 'f'.toUInt8

instance : DecidablePred IsDigit := fun _ => inferInstanceAs (Decidable (_ ∨ _))

theorem IsDigit.ascii {b : UInt8} (h : IsDigit b) : b.toNat < 128 := by
  have below {last : UInt8} (hb : b ≤ last) (hl : last.toNat < 128) : b.toNat < 128 :=
    Nat.lt_of_le_of_lt (UInt8.le_iff_toNat_le.1 hb) hl
  rcases h with ⟨_, h⟩ | ⟨_, h⟩ | ⟨_, h⟩ <;> exact below h (by decide)

/-- A character has a value if its bytes are digits, of which there is one then. -/
theorem value?_isSome_iff (c : Char) :
    (value? c).isSome = true ↔ ∀ b ∈ String.utf8EncodeChar c, IsDigit b := by
  rcases Nat.lt_or_ge c.toNat 128 with h | h
  · rw [Bytes.utf8EncodeChar_ascii h, List.forall_mem_singleton]
    exact ascii_all (P := fun c => (value? c).isSome = true ↔ IsDigit (UInt8.ofNat c.toNat))
      (by decide +kernel) h
  · obtain ⟨b, hb, high⟩ := Bytes.exists_byte_beyond_ascii h
    rw [value?_beyond_ascii h]
    exact iff_of_false Bool.false_ne_true fun all => Nat.not_lt.2 high (all b hb).ascii

theorem bytesOnto_isSome_iff (read : Bytes) (text : List Char) :
    (bytesOnto read text).isSome = true ↔
      text.length % 2 = 0 ∧ ∀ c ∈ text, (value? c).isSome = true := by
  fun_induction bytesOnto read text with
  | case1 read => simp
  | case2 read c => simp
  | case3 read high low rest h l hl hh ih => simp [ih, hh, hl, Nat.add_assoc]
  | case4 read high low rest unread =>
      refine iff_of_false Bool.false_ne_true fun ⟨_, all⟩ => ?_
      obtain ⟨h, hh⟩ := Option.isSome_iff_exists.1 (all high List.mem_cons_self)
      obtain ⟨l, hl⟩ := Option.isSome_iff_exists.1
        (all low (List.mem_cons_of_mem _ List.mem_cons_self))
      exact unread h l hh hl

/-- Text of digits has as many bytes as characters. -/
theorem length_ofText {s : String} (h : ∀ c ∈ s.toList, (value? c).isSome = true) :
    (Bytes.ofText s).length = s.toList.length := by
  have ascii (c : Char) (hc : c ∈ s.toList) : c.toNat < 128 := by
    refine Nat.lt_of_not_ge fun beyond => ?_
    have value := h c hc
    rw [value?_beyond_ascii beyond] at value
    cases value
  have bytes := Bytes.ofText_ascii ascii
  rw [String.ofList_toList] at bytes
  rw [bytes, List.length_map]

theorem forall_digit_iff (s : String) :
    (∀ b ∈ Bytes.ofText s, IsDigit b) ↔ ∀ c ∈ s.toList, (value? c).isSome = true := by
  have bytes := Bytes.ofText_ofList s.toList
  rw [String.ofList_toList] at bytes
  simp only [bytes, value?_isSome_iff, List.forall_mem_flatMap]

theorem exists_decode_iff (s : String) :
    (∃ bytes, decode s = some bytes) ↔
      (Bytes.ofText s).length % 2 = 0 ∧ ∀ b ∈ Bytes.ofText s, IsDigit b := by
  rw [← Option.isSome_iff_exists, decode, bytesOnto_isSome_iff, forall_digit_iff]
  exact and_congr_left fun all => by rw [length_ofText all]

/-- Text is read exactly if it has an even number of bytes, each of them a digit of ASCII, and it is
read as the bytes that are written as this text in lower case, two digits to the base sixteen for
each byte. So whatever was written is read as what it was. -/
theorem hexadecimal_exact (s : String) (bytes : Bytes) :
    ((∃ read, decode s = some read) ↔
        (Bytes.ofText s).length % 2 = 0 ∧ ∀ b ∈ Bytes.ofText s, IsDigit b) ∧
      (decode s = some bytes ↔ encode bytes = lower s) ∧
      decode (encode bytes) = some bytes ∧
      (encode bytes).toList = bytes.flatMap fun b =>
        [Nat.digitChar (b.toNat / 16), Nat.digitChar (b.toNat % 16)] :=
  ⟨exists_decode_iff s, decode_eq_some_iff, decode_encode bytes, toList_encode bytes⟩

end Hex

end SqlWire.Text
