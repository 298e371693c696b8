import TokenLedger.Identifier
/-!
Hexadecimal text that was written reads back.

Each byte is written as two lower-case digits (`Hex.mem_encode`, `Hex.length_encode`), each digit is
one byte of the text, and the pair stands for the byte that was written (`Hex.decode_encode`). So
the text of a transaction id is read as this id (`TransactionId.parse_toHex`).
-/

namespace TokenLedger

/-- A text is encoded character by character. -/
theorem utf8_ofList (characters : List Char) :
    utf8 (String.ofList characters) = characters.flatMap String.utf8EncodeChar := by
  rw [utf8, String.toByteArray_ofList, List.utf8Encode, List.data_toByteArray]

namespace Hex

/-! ### Digits -/

/-- A decimal digit, or one of the lower-case letters up to `f`. -/
def IsDigit (character : Char) : Prop :=
  '0' ≤ character ∧ character ≤ '9' ∨ 'a' ≤ character ∧ character ≤ 'f'

instance (character : Char) : Decidable (IsDigit character) :=
  inferInstanceAs (Decidable ('0' ≤ character ∧ character ≤ '9' ∨
    'a' ≤ character ∧ character ≤ 'f'))

theorem isDigit_digit : ∀ value < 16, IsDigit (digit value) := by decide

/-- The byte that a digit is in a text. -/
def digitByte (value : Nat) : UInt8 := UInt8.ofNat (digit value).toNat

theorem utf8EncodeChar_digit : ∀ value < 16,
    String.utf8EncodeChar (digit value) = [digitByte value] := by decide

/-- A digit reads back as its value. -/
theorem digitValue?_digitByte : ∀ value < 16, digitValue? (digitByte value) = some value := by
  decide

theorem digitValue_digitByte {value : Nat} (small : value < 16) (position : Nat) :
    digitValue (digitByte value) position = .ok value := by
  rw [digitValue, digitValue?_digitByte value small]

/-! ### Texts -/

theorem high_lt (byte : UInt8) : byte.toNat / 16 < 16 := by
  have := byte.toNat_lt
  omega

theorem low_lt (byte : UInt8) : byte.toNat % 16 < 16 := Nat.mod_lt _ (by decide)

/-- A text is written with digits only. -/
theorem mem_encode {bytes : List UInt8} {character : Char}
    (found : character ∈ (encode bytes).toList) : IsDigit character := by
  rw [encode, String.toList_ofList, encodePairs, List.mem_flatMap] at found
  obtain ⟨byte, -, found⟩ := found
  rcases List.mem_cons.mp found with rfl | found
  · exact isDigit_digit _ (high_lt byte)
  · rw [List.mem_singleton] at found
    exact found ▸ isDigit_digit _ (low_lt byte)

/-- A text has two digits for each byte. -/
theorem length_encode (bytes : List UInt8) : (encode bytes).length = 2 * bytes.length := by
  rw [encode, String.length_ofList, encodePairs]
  induction bytes with
  | nil => rfl
  | cons byte rest ih =>
    rw [List.flatMap_cons, List.length_append, ih, List.length_cons]
    simp only [List.length_cons, List.length_nil]
    omega

/-- The bytes of a text are those of the digits, two for each byte that was written. -/
theorem utf8_encode (bytes : List UInt8) :
    utf8 (encode bytes) = bytes.flatMap fun byte =>
      [digitByte (byte.toNat / 16), digitByte (byte.toNat % 16)] := by
  rw [encode, utf8_ofList, encodePairs, List.flatMap_assoc]
  refine congrArg (bytes.flatMap ·) (funext fun byte => ?_)
  rw [List.flatMap_cons, List.flatMap_cons, List.flatMap_nil,
    utf8EncodeChar_digit _ (high_lt byte), utf8EncodeChar_digit _ (low_lt byte)]
  rfl

theorem decodeFrom_pairs (bytes : List UInt8) (position : Nat) :
    decodeFrom position (bytes.flatMap fun byte =>
      [digitByte (byte.toNat / 16), digitByte (byte.toNat % 16)]) = .ok bytes := by
  induction bytes generalizing position with
  | nil => rfl
  | cons byte rest ih =>
    have halves : 16 * (byte.toNat / 16) + byte.toNat % 16 = byte.toNat := Nat.div_add_mod _ _
    simp only [List.flatMap_cons, List.cons_append, List.nil_append, decodeFrom]
    rw [digitValue_digitByte (high_lt byte), digitValue_digitByte (low_lt byte), ih]
    exact congrArg Except.ok (by rw [halves, UInt8.ofNat_toNat])

/-- **What was written reads back.** -/
theorem decode_encode (bytes : List UInt8) : decode (encode bytes) = .ok bytes := by
  have length_eq : (utf8 (encode bytes)).length = 2 * bytes.length := by
    rw [utf8_encode]
    induction bytes with
    | nil => rfl
    | cons byte rest ih => simp [ih]; omega
  have even : ¬ (utf8 (encode bytes)).length % 2 = 1 := by omega
  rw [decode, if_neg even, utf8_encode]
  exact decodeFrom_pairs bytes 0

end Hex

/-! ### Identifiers -/

theorem Bytes32.parse_encode (block : Bytes32) : parse (Hex.encode block.toList) = .ok block := by
  rw [parse, Hex.decode_encode]
  simp only [ofList?_toList]

/-- **The text of an id is read as this id.** -/
theorem TransactionId.parse_toHex (id : TransactionId) : parse id.toHex = .ok id := by
  rw [parse, toHex, Bytes32.parse_encode]
  rfl

/-- The text of an id has sixty-four digits. -/
theorem TransactionId.length_toHex (id : TransactionId) : id.toHex.length = 64 := by
  rw [toHex, Hex.length_encode, id.bytes.length_toList]

end TokenLedger
