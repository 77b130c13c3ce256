import Mathlib.Data.Nat.Digits.Defs
import SqlWire.Proofs.Text.Hexadecimal
import SqlWire.Sql.Kind
import SqlWire.Value.Format

/-!
# Texts that read back

A whole number in decimal, a blob in hexadecimal and the count at the end of a command tag are read
back as what was written. With that, every value but a real survives the way to the server as a
parameter and the way back as a result, as long as its column has the type that it gives a column
itself.
-/

namespace SqlWire

/-! ## Whole numbers -/

namespace Decimal

/-- Digits have no sign in front of them. -/
theorem sign_digits {text : List Char} (h : ∀ c ∈ text, c.isDigit = true) :
    sign text = (false, text) := by
  cases text with
  | nil => rfl
  | cons c rest =>
      have hc := h c List.mem_cons_self
      unfold sign
      split
      · next heq =>
          cases heq
          cases hc
      · next heq =>
          cases heq
          cases hc
      · rfl

theorem isDigit_of_mem {n : Nat} {c : Char} (h : c ∈ Nat.toDigits 10 n) : c.isDigit = true :=
  Nat.isDigit_of_mem_toDigits (by decide) (by decide) h

theorem toList_toString (n : Nat) : (toString n).toList = Nat.toDigits 10 n := by
  rw [Nat.toString_eq_repr, Nat.toList_repr]

theorem digits?_toDigits (n : Nat) : digits? (Nat.toDigits 10 n) = some n := by
  have all : (Nat.toDigits 10 n).all Char.isDigit = true :=
    List.all_eq_true.2 fun _ h => isDigit_of_mem h
  unfold digits?
  rw [all, List.isEmpty_eq_false_iff.2 Nat.toDigits_ne_nil]
  exact congrArg some Nat.ofDigitChars_ten_toDigits

/-- A number reads back up to the limit that the reader was asked for. -/
theorem natural?_toString {limit n : Nat} (h : n ≤ limit) :
    natural? limit (toString n) = some n := by
  have plain : (Nat.toDigits 10 n).head? ≠ some '+' := by
    intro hp
    cases isDigit_of_mem (List.mem_of_head? hp)
  unfold natural?
  dsimp only
  rw [toList_toString, if_neg plain, digits?_toDigits]
  exact if_pos h

/-- A whole number is written with a minus if it is negative, and with the digits of its size. -/
theorem sign_toString (i : Int) :
    sign (toString i).toList = (decide (i < 0), Nat.toDigits 10 i.natAbs) := by
  cases i with
  | ofNat m =>
      have text : (toString (Int.ofNat m)).toList = Nat.toDigits 10 m := toList_toString m
      rw [text, sign_digits fun _ h => isDigit_of_mem h]
      simp
  | negSucc m =>
      have text : (toString (Int.negSucc m)).toList = '-' :: Nat.toDigits 10 (m + 1) := by
        change ("-" ++ (m + 1).repr).toList = _
        rw [String.toList_append, Nat.toList_repr]
        rfl
      rw [text, decide_eq_true (Int.negSucc_lt_zero m)]
      rfl

theorem signed64?_natAbs {i : Int} (low : -0x8000000000000000 ≤ i) (high : i < 0x8000000000000000) :
    signed64? (decide (i < 0)) i.natAbs = some i := by
  unfold signed64?
  by_cases hi : i < 0
  · rw [if_pos (by simpa using hi), if_pos (by omega)]
    exact congrArg some (by omega)
  · rw [if_neg (by simpa using hi), if_pos (by omega)]
    exact congrArg some (by omega)

/-- Every 64-bit number reads back, the least one included. -/
theorem int64?_toString (n : Int64) : int64? (toString n.toInt) = some n := by
  have fits := signed64?_natAbs n.le_toInt n.toInt_lt
  unfold int64?
  rw [sign_toString]
  simp only [digits?_toDigits, fits, Option.bind_eq_bind, Option.bind_some]
  exact congrArg some n.ofInt_toInt

end Decimal

/-! ## Counts in command tags -/

/-- The number behind the last blank of a tag is the count that was put there. -/
theorem rowsOfTag?_append (name : String) {n : Nat} (hn : n ≤ Decimal.word64Max)
    (hb : name.toList.reverse.head? = some ' ') :
    rowsOfTag? (name ++ toString n) = some n := by
  have digits : ∀ c ∈ (Nat.toDigits 10 n).reverse, (c != ' ') = true := by
    intro c hc
    have hd := Decimal.isDigit_of_mem (List.mem_reverse.1 hc)
    exact bne_iff_ne.2 fun h => by
      subst h
      cases hd
  obtain ⟨before, hname⟩ : ∃ before, name.toList.reverse = ' ' :: before :=
    List.head?_eq_some_iff.1 hb
  have last : ((name ++ toString n).toList.reverse.takeWhile (· != ' ')).reverse =
      (toString n).toList := by
    rw [String.toList_append, List.reverse_append, hname, Decimal.toList_toString,
      List.takeWhile_append_of_pos digits, List.takeWhile_cons_of_neg (by decide), List.append_nil,
      List.reverse_reverse]
  unfold rowsOfTag?
  rw [last, String.ofList_toList]
  exact Decimal.natural?_toString hn

/-- The kinds of statements whose tag tells how many rows there were. -/
def SqlKind.isCounted : SqlKind → Bool
  | select | insert | update | delete => true
  | _ => false

/-- The tag of a statement that reads or changes rows tells their number. -/
theorem rowsOfTag?_commandTag {sql : String} {n : Nat} (hk : (SqlKind.ofText sql).isCounted = true)
    (hn : n ≤ Decimal.word64Max) : rowsOfTag? (commandTag sql n) = some n := by
  have kind : SqlKind.ofWords (Text.words sql) = SqlKind.ofText sql := rfl
  unfold commandTag
  dsimp only
  rw [kind]
  cases h : SqlKind.ofText sql with
  | select => exact rowsOfTag?_append "SELECT " hn (by decide)
  | insert => exact rowsOfTag?_append "INSERT 0 " hn (by decide)
  | update => exact rowsOfTag?_append "UPDATE " hn (by decide)
  | delete => exact rowsOfTag?_append "DELETE " hn (by decide)
  | _ =>
      rw [h] at hk
      cases hk

/-! ## Values -/

namespace Value

theorem blobOfText?_blobText (bytes : Bytes) : blobOfText? (blobText bytes) = some bytes := by
  have text : (blobText bytes).toList = '\\' :: 'x' :: Text.Hex.digits bytes := by
    unfold blobText blobMark Text.Hex.encode
    rw [String.toList_append]
    exact congrArg (['\\', 'x'] ++ ·) String.toList_ofList
  unfold blobOfText?
  rw [text]
  exact Text.Hex.bytesOnto_digits [] bytes

def isReal : Value → Bool
  | real _ => true
  | _ => false

variable {v : Value}

/-- Null and nothing else travels as no value at all. -/
theorem toParam_eq_none : v.toParam = none ↔ v = null := by
  cases v <;> simp [toParam, wireText?]

theorem toResult_eq_none {oid : TypeOid} : v.toResult oid = none ↔ v = null := by
  cases v with
  | integer n =>
      simp only [toResult]
      split <;> simp [toParam, wireText?]
  | _ => exact toParam_eq_none

theorem ofParam_ofText (oid : TypeOid) (s : String) :
    ofParam oid (some (Bytes.ofText s)) = ofParamText oid s := by
  simp only [ofParam, Bytes.text?_ofText]

theorem ofResult_ofText (type : ColumnType) (s : String) :
    ofResult type (some (Bytes.ofText s)) = ofColumnText type s := by
  simp only [ofResult, Bytes.text?_ofText]

/-- A parameter of the type that its value gives it is stored as the value that it was. -/
theorem ofParam_toParam (h : v.isReal = false) : ofParam (TypeOid.ofParam v) v.toParam = .ok v := by
  cases v with
  | null => rfl
  | integer n =>
      change ofParam TypeOid.int8 (some (Bytes.ofText (toString n.toInt))) = _
      have type : ColumnType.ofOid TypeOid.int8 = .integer := by decide
      simp only [ofParam_ofText, ofParamText, type, Decimal.int64?_toString, Option.map_some,
        Option.elim_some]
  | real x => cases h
  | text s =>
      change ofParam TypeOid.text (some (Bytes.ofText s)) = _
      have type : ColumnType.ofOid TypeOid.text = .text := by decide
      simp only [ofParam_ofText, ofParamText, type]
  | blob bytes =>
      change ofParam TypeOid.bytea (some (Bytes.ofText (blobText bytes))) = _
      have type : ColumnType.ofOid TypeOid.bytea = .blob := by decide
      simp only [ofParam_ofText, ofParamText, type, blobOfText?_blobText, Option.map_some,
        Option.elim_some]

/-- A result of a column of the type that its value gives it is read as the value that it was. -/
theorem ofResult_toResult (h : v.isReal = false) :
    ofResult (ColumnType.ofOid (TypeOid.ofStored v)) (v.toResult (TypeOid.ofStored v)) = v := by
  cases v with
  | null => rfl
  | integer n =>
      have type : ColumnType.ofOid TypeOid.int8 = .integer := by decide
      change ofResult (ColumnType.ofOid TypeOid.int8) (some (Bytes.ofText (toString n.toInt))) = _
      simp only [type, ofResult_ofText, ofColumnText, Decimal.int64?_toString]
  | real x => cases h
  | text s =>
      change ofResult (ColumnType.ofOid TypeOid.text) (some (Bytes.ofText s)) = _
      have type : ColumnType.ofOid TypeOid.text = .text := by decide
      simp only [type, ofResult_ofText, ofColumnText]
  | blob bytes =>
      change ofResult (ColumnType.ofOid TypeOid.bytea) (some (Bytes.ofText (blobText bytes))) = _
      have type : ColumnType.ofOid TypeOid.bytea = .blob := by decide
      simp only [type, ofResult_ofText, ofColumnText, blobOfText?_blobText, Option.getD_some]

/-- In a column of texts every value is read as the text that stands for it on the wire. -/
theorem ofResult_text (v : Value) :
    ofResult (ColumnType.ofOid TypeOid.text) (v.toResult TypeOid.text) =
      (v.wireText?.map text).getD null := by
  have plain : v.toResult TypeOid.text = v.wireText?.map Bytes.ofText := by
    cases v <;> rfl
  have type : ColumnType.ofOid TypeOid.text = .text := by decide
  rw [plain, type]
  cases v.wireText? with
  | none => rfl
  | some s => exact ofResult_ofText .text s

end Value

end SqlWire
