/-!
Byte strings.

A byte string is a list of bytes. This module fixes the three ways in which the ledger turns
something into bytes, and the one fixed-length block that ids, keys and seeds are made of:

* `utf8`: the UTF-8 encoding of a text. Different texts have different encodings
  (`utf8_injective`), so an order on encodings is an order on texts.
* `littleEndian`: a number in a fixed count of bytes, least significant byte first.
  `ofLittleEndian_littleEndian` says that reading gives the number back, modulo the width.
* `Bytes32`: exactly thirty-two bytes, ordered lexicographically.
-/

namespace TokenLedger

/-! ### Texts as bytes -/

/-- The UTF-8 encoding of a text. -/
def utf8 (text : String) : List UInt8 :=
  text.toByteArray.data.toList

/-- Different texts have different encodings. -/
theorem utf8_injective {left right : String} (same : utf8 left = utf8 right) : left = right :=
  String.toByteArray_inj.mp (ByteArray.ext (Array.toList_inj.mp same))

/-! ### Numbers as bytes -/

/-- The lowest `width` bytes of a number, least significant byte first. -/
def littleEndian : Nat → Nat → List UInt8
  | 0, _ => []
  | width + 1, number => UInt8.ofNat number :: littleEndian width (number / 256)

/-- The number that a byte string stands for when its least significant byte comes first. -/
def ofLittleEndian : List UInt8 → Nat
  | [] => 0
  | byte :: rest => byte.toNat + 256 * ofLittleEndian rest

@[simp] theorem length_littleEndian (width number : Nat) :
    (littleEndian width number).length = width := by
  induction width generalizing number with
  | zero => rfl
  | succ width ih => simp [littleEndian, ih]

/-- Reading what was written gives the number back, modulo what the width can hold. -/
theorem ofLittleEndian_littleEndian (width number : Nat) :
    ofLittleEndian (littleEndian width number) = number % Nat.pow 256 width := by
  induction width generalizing number with
  | zero => simp [littleEndian, ofLittleEndian, Nat.mod_one]
  | succ width ih =>
    rw [littleEndian, ofLittleEndian, ih]
    simp only [Nat.pow_eq]
    rw [Nat.pow_succ', Nat.mod_mul]
    simp

/-! ### Blocks of thirty-two bytes -/

/-- Exactly thirty-two bytes. -/
structure Bytes32 where
  toList : List UInt8
  length_toList : toList.length = 32
deriving DecidableEq, Repr

namespace Bytes32

theorem ext {left right : Bytes32} (same : left.toList = right.toList) : left = right := by
  cases left; cases right; cases same; rfl

/-- Blocks are ordered byte by byte, the first difference deciding. -/
instance : Ord Bytes32 where
  compare := compareOn toList

instance : Std.TransOrd Bytes32 :=
  inferInstanceAs (Std.TransCmp (compareOn Bytes32.toList))

instance : Std.LawfulEqOrd Bytes32 where
  eq_of_compare h := ext (Std.LawfulEqOrd.eq_of_compare (α := List UInt8) h)

/-- The block that holds these bytes, if there are thirty-two of them. -/
def ofList? (bytes : List UInt8) : Option Bytes32 :=
  if length_eq : bytes.length = 32 then some ⟨bytes, length_eq⟩ else none

/-- The block that repeats one byte. -/
def replicate (byte : UInt8) : Bytes32 :=
  ⟨List.replicate 32 byte, List.length_replicate⟩

/-- The thirty-two lowest bytes of a number. -/
def ofNat (number : Nat) : Bytes32 :=
  ⟨littleEndian 32 number, length_littleEndian 32 number⟩

/-- The number that the block stands for, least significant byte first. -/
def toNat (block : Bytes32) : Nat :=
  ofLittleEndian block.toList

theorem ofList?_toList (block : Bytes32) : ofList? block.toList = some block :=
  dif_pos block.length_toList

instance : Inhabited Bytes32 := ⟨replicate 0⟩

end Bytes32

end TokenLedger
