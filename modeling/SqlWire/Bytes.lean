/-! # Byte strings

Bytes are lists, so that a reader is a function from a list to what it read and the rest.
Integers travel with their most significant byte first, and text travels as UTF-8.
-/

namespace SqlWire

abbrev Bytes := List UInt8

namespace Bytes

/-- A 16-bit word, most significant byte first. -/
def ofWord16 (w : UInt16) : Bytes :=
  [(w >>> 8).toUInt8, w.toUInt8]

def ofWord32 (w : UInt32) : Bytes :=
  [(w >>> 24).toUInt8, (w >>> 16).toUInt8, (w >>> 8).toUInt8, w.toUInt8]

def word16 (a b : UInt8) : UInt16 :=
  a.toUInt16 <<< 8 ||| b.toUInt16

def word32 (a b c d : UInt8) : UInt32 :=
  a.toUInt32 <<< 24 ||| b.toUInt32 <<< 16 ||| c.toUInt32 <<< 8 ||| d.toUInt32

def ofText (s : String) : Bytes :=
  s.toUTF8.data.toList

def text? (bytes : Bytes) : Option String :=
  String.fromUTF8? bytes.toByteArray

theorem length_ofWord16 (w : UInt16) : (ofWord16 w).length = 2 := rfl

theorem length_ofWord32 (w : UInt32) : (ofWord32 w).length = 4 := rfl

theorem text?_ofText (s : String) : text? (ofText s) = some s := by
  have h : (ofText s).toByteArray = s.toByteArray := by
    apply ByteArray.ext
    simp [ofText, List.data_toByteArray, String.toUTF8]
  simp [text?, String.fromUTF8?, h, s.isValidUTF8, String.fromUTF8]

theorem ofText_append (a b : String) : ofText (a ++ b) = ofText a ++ ofText b := by
  simp [ofText, String.toUTF8]

theorem ofText_ofList (cs : List Char) :
    ofText (String.ofList cs) = cs.flatMap String.utf8EncodeChar := by
  simp [ofText, String.toUTF8, List.utf8Encode]

/-- A character of ASCII is one byte, its code. -/
theorem utf8EncodeChar_ascii {c : Char} (h : c.toNat < 128) :
    String.utf8EncodeChar c = [UInt8.ofNat c.toNat] :=
  if_pos (Nat.le_of_lt_succ h)

theorem ofText_ascii {cs : List Char} (h : ∀ c ∈ cs, c.toNat < 128) :
    ofText (String.ofList cs) = cs.map fun c => UInt8.ofNat c.toNat := by
  rw [ofText_ofList, List.map_eq_flatMap, List.flatMap_def, List.flatMap_def,
    List.map_congr_left fun c hc => utf8EncodeChar_ascii (h c hc)]

/-- Every other character has a byte that ASCII does not have. -/
theorem exists_byte_beyond_ascii {c : Char} (h : 128 ≤ c.toNat) :
    ∃ b ∈ String.utf8EncodeChar c, 128 ≤ b.toNat := by
  have beyond : ¬c.val.toNat ≤ 127 := Nat.not_le.2 h
  have first {code : Nat} {more : Bytes} (high : 128 ≤ code % 256) :
      ∃ b ∈ UInt8.ofNat code :: more, 128 ≤ b.toNat :=
    ⟨_, List.mem_cons_self, by rwa [UInt8.toNat_ofNat']⟩
  -- The marks of the first byte, whether two, three or four bytes belong together.
  unfold String.utf8EncodeChar
  dsimp only
  rw [if_neg beyond]
  split
  · exact first (by omega)
  split
  · exact first (by omega)
  · exact first (by omega)

end Bytes

end SqlWire
