import TokenLedger.Bytes
/-!
Cutting a message into the blocks that a hash function of the SHA-2 family works on.

The message is followed by one byte `0x80`, by zero bytes, and by its length in bits as a big-endian
number, so that the whole is a multiple of the block length. Both members of the family share this;
they differ in the block length and in the number of bytes that hold the message length.
-/

namespace TokenLedger.Hash

/-- A number in a fixed count of bytes, most significant byte first. -/
def bigEndian (width number : Nat) : List UInt8 :=
  (littleEndian width number).reverse

/-- The number that a byte string stands for when its most significant byte comes first. -/
def ofBigEndian (bytes : List UInt8) : Nat :=
  bytes.foldl (fun number byte => number * 256 + byte.toNat) 0

/-- The message with its padding; `lengthWidth` bytes hold the length in bits. -/
def pad (blockLength lengthWidth : Nat) (message : List UInt8) : List UInt8 :=
  let used := message.length + 1 + lengthWidth
  let zeros := (blockLength - used % blockLength) % blockLength
  message ++ 0x80 :: List.replicate zeros 0 ++ bigEndian lengthWidth (8 * message.length)

/-- The consecutive pieces of `size` elements; a shorter rest is dropped. -/
def pieces {α : Type} (size : Nat) (list : List α) : List (List α) :=
  (List.range (list.length / size)).map fun index => (list.drop (index * size)).take size

end TokenLedger.Hash
