import TokenLedger.Hash.Blocks
/-!
SHA-256, the hash that gives a transaction its id.

The state is eight words of 32 bits. Each block of 64 bytes is spread into a schedule of 64 words,
and one round per word updates the state; the block's result is added to the state it started from.
-/

namespace TokenLedger.Hash.Sha256

/-- The eight words of the state. -/
structure Registers where
  (a b c d e f g h : UInt32)

/-- The state before the first block: the first 32 bits of the fractional parts of the square roots
of the first eight primes. -/
def initial : Registers :=
  ⟨0x6a09e667, 0xbb67ae85, 0x3c6ef372, 0xa54ff53a, 0x510e527f, 0x9b05688c, 0x1f83d9ab, 0x5be0cd19⟩

/-- One constant a round: the first 32 bits of the fractional parts of the cube roots of the first
sixty-four primes. -/
def roundConstants : List UInt32 :=
  [0x428a2f98, 0x71374491, 0xb5c0fbcf, 0xe9b5dba5, 0x3956c25b, 0x59f111f1, 0x923f82a4, 0xab1c5ed5,
   0xd807aa98, 0x12835b01, 0x243185be, 0x550c7dc3, 0x72be5d74, 0x80deb1fe, 0x9bdc06a7, 0xc19bf174,
   0xe49b69c1, 0xefbe4786, 0x0fc19dc6, 0x240ca1cc, 0x2de92c6f, 0x4a7484aa, 0x5cb0a9dc, 0x76f988da,
   0x983e5152, 0xa831c66d, 0xb00327c8, 0xbf597fc7, 0xc6e00bf3, 0xd5a79147, 0x06ca6351, 0x14292967,
   0x27b70a85, 0x2e1b2138, 0x4d2c6dfc, 0x53380d13, 0x650a7354, 0x766a0abb, 0x81c2c92e, 0x92722c85,
   0xa2bfe8a1, 0xa81a664b, 0xc24b8b70, 0xc76c51a3, 0xd192e819, 0xd6990624, 0xf40e3585, 0x106aa070,
   0x19a4c116, 0x1e376c08, 0x2748774c, 0x34b0bcb5, 0x391c0cb3, 0x4ed8aa4a, 0x5b9cca4f, 0x682e6ff3,
   0x748f82ee, 0x78a5636f, 0x84c87814, 0x8cc70208, 0x90befffa, 0xa4506ceb, 0xbef9a3f7, 0xc67178f2]

/-- Rotation toward the low end, by an amount between 1 and 31. -/
def rotateRight (word : UInt32) (amount : UInt32) : UInt32 :=
  (word >>> amount) ||| (word <<< (32 - amount))

/-- The words of the schedule: the sixteen of the block, and forty-eight made from earlier ones. -/
def schedule (block : List UInt8) : Array UInt32 :=
  let start := (pieces 4 block).map fun bytes => UInt32.ofNat (ofBigEndian bytes)
  (List.range 48).foldl (fun words index =>
    let back15 := words[index + 1]?.getD 0
    let back2 := words[index + 14]?.getD 0
    let low := rotateRight back15 7 ^^^ rotateRight back15 18 ^^^ (back15 >>> 3)
    let high := rotateRight back2 17 ^^^ rotateRight back2 19 ^^^ (back2 >>> 10)
    words.push (words[index]?.getD 0 + low + words[index + 9]?.getD 0 + high)) start.toArray

/-- One round, with its constant and its word of the schedule. -/
def round (state : Registers) (constant word : UInt32) : Registers :=
  let mix := rotateRight state.e 6 ^^^ rotateRight state.e 11 ^^^ rotateRight state.e 25
  let choice := (state.e &&& state.f) ^^^ (~~~state.e &&& state.g)
  let first := state.h + mix + choice + constant + word
  let spread := rotateRight state.a 2 ^^^ rotateRight state.a 13 ^^^ rotateRight state.a 22
  let majority := (state.a &&& state.b) ^^^ (state.a &&& state.c) ^^^ (state.b &&& state.c)
  ⟨first + (spread + majority), state.a, state.b, state.c, state.d + first, state.e, state.f,
    state.g⟩

/-- The state after one more block. -/
def absorb (state : Registers) (block : List UInt8) : Registers :=
  let done := (roundConstants.zip (schedule block).toList).foldl
    (fun current pair => round current pair.1 pair.2) state
  ⟨state.a + done.a, state.b + done.b, state.c + done.c, state.d + done.d,
   state.e + done.e, state.f + done.f, state.g + done.g, state.h + done.h⟩

/-- The words of the state, first to last. -/
def Registers.toList (state : Registers) : List UInt32 :=
  [state.a, state.b, state.c, state.d, state.e, state.f, state.g, state.h]

/-- The thirty-two bytes that the state stands for. -/
def Registers.digest (state : Registers) : Bytes32 where
  toList := state.toList.flatMap fun word => bigEndian 4 word.toNat
  length_toList := by simp [Registers.toList, bigEndian]

/-- The hash of a message. -/
def hash (message : List UInt8) : Bytes32 :=
  ((pieces 64 (pad 64 8 message)).foldl absorb initial).digest

end TokenLedger.Hash.Sha256
