import Mathlib.Data.List.Basic
import TokenLedger.Proofs.First
import TokenLedger.Proofs.Hex
/-!
Which texts are ids and keys.

An id and a key are thirty-two bytes, and both are written and read in the same way. `HexForm` says
what that way is, in terms of the text alone:

* sixty-four digits of either case are read, and nothing else is (`Hex.IsBlockText`);
* what was read is written as the same text in lower case, and what was written is read back;
* of a text that is not read the number of its bytes is reported if it is odd, else the first byte
  that is no digit, else the number of bytes that it would have been (`Hex.Unreadable`).

Reading goes through the UTF-8 bytes of the text two at a time. A character beyond ASCII has a byte
that is no digit (`Hex.forall_isDigitCode_iff`), so that a text with such a character is refused for
this byte, and one that is read has as many characters as bytes. `Hex.decodeFrom_of_digits` and
`Hex.decodeFrom_of_firstAt` are the two ways in which the pairs can go.
-/

namespace TokenLedger

namespace Hex

/-! ### Digits of either case -/

/-- A digit of either case. -/
def IsAnyDigit (character : Char) : Prop :=
  IsDigit character ∨ 'A' ≤ character ∧ character ≤ 'F'

instance (character : Char) : Decidable (IsAnyDigit character) :=
  inferInstanceAs (Decidable (IsDigit character ∨ 'A' ≤ character ∧ character ≤ 'F'))

/-- A byte that is a digit of either case in a text. -/
def IsDigitCode (byte : UInt8) : Prop := IsAnyDigit (Char.ofNat byte.toNat)

instance (byte : UInt8) : Decidable (IsDigitCode byte) :=
  inferInstanceAs (Decidable (IsAnyDigit _))

/-- A digit of either case is in the ASCII range. -/
theorem IsAnyDigit.lt {character : Char} (isDigit : IsAnyDigit character) :
    character.toNat < 0x80 := by
  rcases isDigit with (⟨-, below⟩ | ⟨-, below⟩) | ⟨-, below⟩
  · exact Nat.lt_of_le_of_lt below (by decide)
  · exact Nat.lt_of_le_of_lt below (by decide)
  · exact Nat.lt_of_le_of_lt below (by decide)

set_option maxRecDepth 4000 in
/-- Checked for all bytes: a digit has the value of the lower-case digit. -/
theorem exists_digitValue?_ofNat : ∀ number < 256, IsAnyDigit (Char.ofNat number) →
    ∃ value < 16, digitValue? (UInt8.ofNat number) = some value ∧
      digit value = (Char.ofNat number).toLower := by
  decide

set_option maxRecDepth 4000 in
theorem digitValue?_ofNat_eq_none : ∀ number < 256, ¬ IsAnyDigit (Char.ofNat number) →
    digitValue? (UInt8.ofNat number) = none := by
  decide

/-- A byte that is a digit has the value of the lower-case digit. -/
theorem exists_digitValue {byte : UInt8} (isCode : IsDigitCode byte) :
    ∃ value < 16, (∀ position, digitValue byte position = .ok value) ∧
      digit value = (Char.ofNat byte.toNat).toLower := by
  obtain ⟨value, small, found, lower⟩ := exists_digitValue?_ofNat byte.toNat byte.toNat_lt isCode
  rw [UInt8.ofNat_toNat] at found
  refine ⟨value, small, fun position => ?_, lower⟩
  rw [digitValue, found]

/-- Every other byte is reported. -/
theorem digitValue_of_stray {byte : UInt8} (stray : ¬ IsDigitCode byte) (position : Nat) :
    digitValue byte position = .error (.notADigit byte position) := by
  have nothing := digitValue?_ofNat_eq_none byte.toNat byte.toNat_lt stray
  rw [UInt8.ofNat_toNat] at nothing
  rw [digitValue, nothing]

/-! ### Pairs of bytes -/

/-- The two digits of a byte are those that it is put together from. -/
theorem digits_of_halves {high low : Nat} (high_small : high < 16) (low_small : low < 16) :
    encodePairs [UInt8.ofNat (16 * high + low)] = [digit high, digit low] := by
  have whole : (UInt8.ofNat (16 * high + low)).toNat = 16 * high + low :=
    UInt8.toNat_ofNat_of_lt' (by unfold UInt8.size; omega)
  have first : (16 * high + low) / 16 = high := by omega
  have second : (16 * high + low) % 16 = low := by omega
  simp only [encodePairs, List.flatMap_cons, List.flatMap_nil, List.append_nil, whole, first,
    second]

/-- **Digits are read in pairs**, and writing what was read gives the digits in lower case. -/
theorem decodeFrom_of_digits {bytes : List UInt8} (even : bytes.length % 2 = 0)
    (digits : ∀ byte ∈ bytes, IsDigitCode byte) (position : Nat) :
    ∃ values, decodeFrom position bytes = .ok values ∧
      encodePairs values = bytes.map fun byte => (Char.ofNat byte.toNat).toLower := by
  fun_induction decodeFrom position bytes with
  | case1 position high low rest ih =>
    rw [List.forall_mem_cons, List.forall_mem_cons] at digits
    obtain ⟨highDigit, lowDigit, restDigits⟩ := digits
    rw [List.length_cons, List.length_cons] at even
    obtain ⟨values, read, written⟩ := ih (by omega) restDigits
    obtain ⟨highValue, high_small, high_read, high_lower⟩ := exists_digitValue highDigit
    obtain ⟨lowValue, low_small, low_read, low_lower⟩ := exists_digitValue lowDigit
    refine ⟨UInt8.ofNat (16 * highValue + lowValue) :: values, ?_, ?_⟩
    · rw [high_read, low_read, read]
      rfl
    · have pair := digits_of_halves high_small low_small
      rw [List.map_cons, List.map_cons, ← written, ← high_lower, ← low_lower]
      show encodePairs ([_] ++ values) = _
      rw [encodePairs, List.flatMap_append, ← encodePairs, ← encodePairs, pair]
      rfl
  | case2 bytes position short =>
    -- nothing is left, because a single byte would make the number of them odd
    rcases bytes with _ | ⟨high, _ | ⟨low, rest⟩⟩
    · exact ⟨[], rfl, rfl⟩
    · cases even
    · exact absurd rfl (short high low rest)

/-- **The first byte that is no digit is reported**, with the position at which it stands. -/
theorem decodeFrom_of_firstAt {bytes : List UInt8} (even : bytes.length % 2 = 0) {index : Nat}
    {byte : UInt8} (first : FirstAt (fun _ other => ¬ IsDigitCode other) bytes index byte)
    (position : Nat) :
    decodeFrom position bytes = .error (.notADigit byte (position + index)) := by
  fun_induction decodeFrom position bytes generalizing index with
  | case1 position high low rest ih =>
    rw [List.length_cons, List.length_cons] at even
    by_cases highDigit : IsDigitCode high
    · obtain ⟨value, -, high_read, -⟩ := exists_digitValue highDigit
      obtain ⟨next, rfl, behind⟩ := (firstAt_cons_of_fine (not_not_intro highDigit)).mp first
      by_cases lowDigit : IsDigitCode low
      · obtain ⟨_, -, low_read, -⟩ := exists_digitValue lowDigit
        obtain ⟨later, rfl, last⟩ := (firstAt_cons_of_fine (not_not_intro lowDigit)).mp behind
        rw [high_read, low_read, ih (by omega) last, show position + 2 + later =
          position + (later + 1 + 1) by omega]
        rfl
      · obtain ⟨rfl, rfl⟩ := (firstAt_cons_of_bad lowDigit).mp behind
        rw [high_read, digitValue_of_stray lowDigit]
        rfl
    · obtain ⟨rfl, rfl⟩ := (firstAt_cons_of_bad highDigit).mp first
      rw [digitValue_of_stray highDigit]
      rfl
  | case2 bytes position short =>
    rcases bytes with _ | ⟨high, _ | ⟨low, rest⟩⟩
    · exact absurd first not_firstAt_nil
    · cases even
    · exact absurd rfl (short high low rest)

/-! ### Texts and their bytes -/

/-- A character is its own code if it is in the ASCII range. -/
theorem utf8EncodeChar_of_lt {character : Char} (ascii : character.toNat < 0x80) :
    String.utf8EncodeChar character = [UInt8.ofNat character.toNat] :=
  if_pos (Nat.le_of_lt_succ ascii)

/-- Every other character begins with a byte beyond that range. -/
theorem exists_mem_utf8EncodeChar_of_le {character : Char} (beyond : 0x80 ≤ character.toNat) :
    ∃ byte ∈ String.utf8EncodeChar character, 0x80 ≤ byte.toNat := by
  have not_ascii : ¬ character.val.toNat ≤ 0x7f := Nat.not_le.mpr beyond
  unfold String.utf8EncodeChar
  rw [if_neg not_ascii]
  -- two, three or four bytes, of which the first has its highest bit set
  split
  · exact ⟨_, List.mem_cons_self, by rw [UInt8.toNat_ofNat']; omega⟩
  · split
    · exact ⟨_, List.mem_cons_self, by rw [UInt8.toNat_ofNat']; omega⟩
    · exact ⟨_, List.mem_cons_self, by rw [UInt8.toNat_ofNat']; omega⟩

theorem IsDigitCode.lt {byte : UInt8} (isCode : IsDigitCode byte) : byte.toNat < 0x80 := by
  have valid : byte.toNat.isValidChar := Or.inl (Nat.lt_trans byte.toNat_lt (by decide))
  have small : (Char.ofNat byte.toNat).toNat < 0x80 := IsAnyDigit.lt isCode
  rw [Char.ofNat, dif_pos valid] at small
  exact small

/-- A character is a digit if all of its bytes are. -/
theorem isAnyDigit_iff {character : Char} :
    (∀ byte ∈ String.utf8EncodeChar character, IsDigitCode byte) ↔ IsAnyDigit character := by
  by_cases ascii : character.toNat < 0x80
  · have itself : (UInt8.ofNat character.toNat).toNat = character.toNat :=
      UInt8.toNat_ofNat_of_lt' (Nat.lt_trans ascii (by decide))
    rw [utf8EncodeChar_of_lt ascii, List.forall_mem_singleton, IsDigitCode, itself,
      Char.ofNat_toNat]
  · obtain ⟨byte, found, beyond⟩ := exists_mem_utf8EncodeChar_of_le (Nat.le_of_not_lt ascii)
    constructor
    · intro digits
      exact absurd (digits byte found).lt (Nat.not_lt.mpr beyond)
    · intro isDigit
      exact absurd isDigit.lt ascii

theorem utf8_eq_flatMap (text : String) :
    utf8 text = text.toList.flatMap String.utf8EncodeChar := by
  rw [← utf8_ofList, String.ofList_toList]

/-- The bytes of a text are digits if its characters are. -/
theorem forall_isDigitCode_iff {text : String} :
    (∀ byte ∈ utf8 text, IsDigitCode byte) ↔ ∀ character ∈ text.toList, IsAnyDigit character := by
  simp only [utf8_eq_flatMap, List.mem_flatMap, forall_exists_index, and_imp, ← isAnyDigit_iff]
  exact ⟨fun digits character listed byte found => digits byte character listed found,
    fun digits byte character listed found => digits character listed byte found⟩

/-- A text of digits has one byte for each of them. -/
theorem utf8_of_digits {text : String}
    (digits : ∀ character ∈ text.toList, IsAnyDigit character) :
    utf8 text = text.toList.map fun character => UInt8.ofNat character.toNat := by
  rw [utf8_eq_flatMap, List.map_eq_flatMap]
  exact List.flatMap_congr fun character listed =>
    utf8EncodeChar_of_lt (digits character listed).lt

theorem toList_toLower (text : String) : text.toLower.toList = text.toList.map Char.toLower :=
  String.toList_map

theorem length_toLower (text : String) : text.toLower.length = text.length := String.length_map

/-- **A text of digits is read**, if there are evenly many, and what was read is written as the text
in lower case. -/
theorem decode_of_digits {text : String} (even : (utf8 text).length % 2 = 0)
    (digits : ∀ character ∈ text.toList, IsAnyDigit character) :
    ∃ values, decode text = .ok values ∧ encode values = text.toLower := by
  have codes := forall_isDigitCode_iff.mpr digits
  obtain ⟨values, read, written⟩ := decodeFrom_of_digits even codes 0
  have not_odd : ¬ (utf8 text).length % 2 = 1 := by omega
  refine ⟨values, ?_, ?_⟩
  · rw [decode, if_neg not_odd, read]
  · have lower : encodePairs values = text.toList.map Char.toLower := by
      rw [written, utf8_of_digits digits, List.map_map]
      refine List.map_congr_left fun character listed => ?_
      have small := (digits character listed).lt
      show (Char.ofNat (UInt8.ofNat character.toNat).toNat).toLower = character.toLower
      rw [UInt8.toNat_ofNat_of_lt' (Nat.lt_trans small (by decide)), Char.ofNat_toNat]
    rw [encode, lower, ← toList_toLower, String.ofList_toList]

theorem decode_of_firstAt {text : String} (even : (utf8 text).length % 2 = 0) {position : Nat}
    {byte : UInt8}
    (first : FirstAt (fun _ other => ¬ IsDigitCode other) (utf8 text) position byte) :
    decode text = .error (.notADigit byte position) := by
  have not_odd : ¬ (utf8 text).length % 2 = 1 := by omega
  rw [decode, if_neg not_odd, decodeFrom_of_firstAt even first, Nat.zero_add]

theorem decode_of_odd {text : String} (odd : (utf8 text).length % 2 = 1) :
    decode text = .error .oddLength := if_pos odd

/-! ### Blocks of thirty-two bytes -/

/-- A text of sixty-four digits of either case. -/
def IsBlockText (text : String) : Prop :=
  text.length = 64 ∧ ∀ character ∈ text.toList, IsAnyDigit character

instance (text : String) : Decidable (IsBlockText text) :=
  inferInstanceAs (Decidable (_ ∧ _))

/-- **What is wrong with a text**, in the order in which it counts, and the error that says so. -/
inductive Unreadable (text : String) : IdError → Prop
  | odd (odd : (utf8 text).length % 2 = 1) : Unreadable text (.invalidHex .oddLength)
  | stray {position : Nat} {byte : UInt8} (even : (utf8 text).length % 2 = 0)
      (first : FirstAt (fun _ other => ¬ IsDigitCode other) (utf8 text) position byte) :
      Unreadable text (.invalidHex (.notADigit byte position))
  | length (even : (utf8 text).length % 2 = 0) (digits : ∀ byte ∈ utf8 text, IsDigitCode byte)
      (wrong : (utf8 text).length / 2 ≠ 32) :
      Unreadable text (.invalidLength ((utf8 text).length / 2))

/-- A text is that of a block, or something is wrong with it. -/
theorem isBlockText_or_unreadable (text : String) :
    IsBlockText text ∨ ∃ cause, Unreadable text cause := by
  by_cases odd : (utf8 text).length % 2 = 1
  · exact Or.inr ⟨_, .odd odd⟩
  have even : (utf8 text).length % 2 = 0 := by omega
  by_cases codes : ∀ byte ∈ utf8 text, IsDigitCode byte
  · by_cases length_eq : (utf8 text).length / 2 = 32
    · have digits := forall_isDigitCode_iff.mp codes
      refine Or.inl ⟨?_, digits⟩
      rw [utf8_of_digits digits, List.length_map, String.length_toList] at length_eq even
      omega
    · exact Or.inr ⟨_, .length even codes length_eq⟩
  · have stray : ∃ byte ∈ utf8 text, ¬ IsDigitCode byte := by
      simpa only [not_forall, exists_prop] using codes
    obtain ⟨position, byte, first⟩ := exists_firstAt stray
    exact Or.inr ⟨_, .stray even first⟩

end Hex

namespace Bytes32

open Hex

/-- The text of a block is read as a block, which is written as this text in lower case. -/
theorem parse_of_isBlockText {text : String} (isBlock : IsBlockText text) :
    ∃ block, parse text = .ok block ∧ encode block.toList = text.toLower := by
  obtain ⟨length_eq, digits⟩ := isBlock
  have bytes_eq : (utf8 text).length = 64 := by
    rw [utf8_of_digits digits, List.length_map, String.length_toList, length_eq]
  obtain ⟨values, read, written⟩ := decode_of_digits (by rw [bytes_eq]) digits
  have values_eq : values.length = 32 := by
    have both := length_encode values
    rw [written, length_toLower, length_eq] at both
    omega
  refine ⟨⟨values, values_eq⟩, ?_, written⟩
  rw [parse, read]
  simp only [ofList?, values_eq, dif_pos]

theorem parse_of_unreadable {text : String} {cause : IdError} (wrong : Unreadable text cause) :
    parse text = .error cause := by
  cases wrong with
  | odd odd => rw [parse, decode_of_odd odd]
  | stray even first => rw [parse, decode_of_firstAt even first]
  | length even codes wrong =>
    have digits := forall_isDigitCode_iff.mp codes
    obtain ⟨values, read, written⟩ := decode_of_digits even digits
    have values_eq : values.length = (utf8 text).length / 2 := by
      have both := length_encode values
      rw [written, length_toLower, ← String.length_toList] at both
      rw [utf8_of_digits digits, List.length_map]
      omega
    rw [← values_eq] at wrong ⊢
    rw [parse, read]
    simp only [ofList?, dif_neg wrong]

end Bytes32

/-! ### Ids and keys -/

open Hex

/-- **The hexadecimal form of a block** that something reads and something writes. -/
structure HexForm {α : Type} (parse : String → Except IdError α) (print : α → String) : Prop where
  /-- Sixty-four digits of either case are read, and nothing else. -/
  accepts : ∀ text, (∃ value, parse text = .ok value) ↔ IsBlockText text
  /-- What was read is written as the same text in lower case. -/
  print_of_parse : ∀ text value, parse text = .ok value → print value = text.toLower
  /-- What was written is read back. -/
  parse_print : ∀ value, parse (print value) = .ok value
  /-- The error is the one that belongs to what is wrong with the text. -/
  refuses : ∀ text cause, parse text = .error cause ↔ Unreadable text cause

theorem Bytes32.hexForm : HexForm parse fun block => encode block.toList where
  accepts text := by
    constructor
    · rintro ⟨block, read⟩
      rcases isBlockText_or_unreadable text with isBlock | ⟨cause, wrong⟩
      · exact isBlock
      · cases read.symm.trans (parse_of_unreadable wrong)
    · intro isBlock
      obtain ⟨block, read, -⟩ := parse_of_isBlockText isBlock
      exact ⟨block, read⟩
  print_of_parse text block read := by
    rcases isBlockText_or_unreadable text with isBlock | ⟨cause, wrong⟩
    · obtain ⟨_, again, written⟩ := parse_of_isBlockText isBlock
      cases read.symm.trans again
      exact written
    · cases read.symm.trans (parse_of_unreadable wrong)
  parse_print := parse_encode
  refuses text cause := by
    refine ⟨fun refused => ?_, parse_of_unreadable⟩
    rcases isBlockText_or_unreadable text with isBlock | ⟨other, wrong⟩
    · obtain ⟨_, read, -⟩ := parse_of_isBlockText isBlock
      cases refused.symm.trans read
    · cases refused.symm.trans (parse_of_unreadable wrong)
      exact wrong

/-- A value that is nothing but a block is read and written as this block. -/
theorem HexForm.wrap {α β : Type} {parse : String → Except IdError α} {print : α → String}
    (form : HexForm parse print) {mk : α → β} {inside : β → α}
    (inside_mk : ∀ value, inside (mk value) = value)
    (mk_inside : ∀ whole, mk (inside whole) = whole) :
    HexForm (fun text => (parse text).map mk) fun whole => print (inside whole) where
  accepts text := by
    rw [← form.accepts]
    cases parse text with
    | error cause => simp [Except.map]
    | ok value => simp [Except.map]
  print_of_parse text whole read := by
    refine form.print_of_parse text (inside whole) ?_
    cases read_inside : parse text with
    | error cause =>
      rw [read_inside] at read
      cases read
    | ok value =>
      rw [read_inside] at read
      cases read
      rw [inside_mk]
  parse_print whole := by
    show (parse (print (inside whole))).map mk = .ok whole
    rw [form.parse_print]
    exact congrArg Except.ok (mk_inside whole)
  refuses text cause := by
    rw [← form.refuses]
    cases parse text with
    | error other => simp [Except.map]
    | ok value => simp [Except.map]

/-- **Ids and keys have the hexadecimal form of a block**: they are read from exactly sixty-four
digits of either case and written in lower case, and of any other text the first thing that is wrong
with it is reported, an odd number of bytes in these words. -/
theorem hexForm_ids_and_keys :
    HexForm TransactionId.parse TransactionId.toHex ∧ HexForm LedgerKey.parse LedgerKey.toHex ∧
      ∀ text cause, (utf8 text).length % 2 = 1 → Unreadable text cause →
        cause.message = "Invalid hex encoding: Odd number of digits" := by
  refine ⟨Bytes32.hexForm.wrap (fun _ => rfl) fun _ => rfl,
    Bytes32.hexForm.wrap (fun _ => rfl) fun _ => rfl, fun text cause odd wrong => ?_⟩
  cases (Bytes32.parse_of_unreadable (.odd odd)).symm.trans (Bytes32.parse_of_unreadable wrong)
  rfl

end TokenLedger
