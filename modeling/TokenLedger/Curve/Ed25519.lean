import TokenLedger.Curve.Point
import TokenLedger.Hash.Sha512
import TokenLedger.Signing.Scheme
/-!
Ed25519 signatures.

A seed is hashed to sixty-four bytes: the first half, with five bits fixed, is the secret scalar,
the second half makes the nonce of each signature, so that signing is a function of seed and
message.

Checking is strict. Beyond the equation `[s] B = R + [k] A` it asks that `s` is below the order of
the base point, that both `A` and `R` are points outside the subgroup of order eight, and that `R`
is written in its only canonical form.
-/

namespace TokenLedger.Curve.Ed25519

/-- The order of the base point. -/
def groupOrder : Nat := Nat.pow 2 252 + 27742317777372353535851937790883648493

/-- A secret scalar from thirty-two bytes: a multiple of eight with bit 254 as its highest bit. -/
def clamp (bytes : List UInt8) : Nat :=
  let number := ofLittleEndian bytes % Nat.pow 2 254
  Nat.pow 2 254 + number - number % 8

/-- The hash of the concatenated parts as a number modulo the group order. -/
def hashToScalar (parts : List (List UInt8)) : Nat :=
  ofLittleEndian (Hash.Sha512.hash parts.flatten) % groupOrder

/-- The two halves of the hash of a seed: the secret scalar and what makes the nonces. -/
def expand (seed : Bytes32) : Nat × List UInt8 :=
  let hashed := Hash.Sha512.hash seed.toList
  (clamp (hashed.take 32), hashed.drop 32)

/-- The public key of a seed. -/
def publicKey (seed : Bytes32) : Bytes32 :=
  (Point.base.multiply (expand seed).1).encode

/-- The signature of a message: the point `R` and the scalar `s`, thirty-two bytes each. -/
def sign (seed : Bytes32) (message : List UInt8) : List UInt8 :=
  let (secret, nonceKey) := expand seed
  let nonce := hashToScalar [nonceKey, message]
  let point := (Point.base.multiply nonce).encode
  let challenge := hashToScalar [point.toList, (publicKey seed).toList, message]
  point.toList ++ littleEndian 32 ((challenge * secret + nonce) % groupOrder)

/-- Whether thirty-two bytes are the encoding of a point. -/
def isKey (key : Bytes32) : Bool :=
  (Point.decode? key).isSome

/-- Strict verification of sixty-four bytes as a signature of a message. -/
def accepts (key : Bytes32) (message signature : List UInt8) : Bool :=
  let scalar := ofLittleEndian (signature.drop 32)
  match Bytes32.ofList? (signature.take 32), Point.decode? key with
  | some encoded, some owner =>
    match Point.decode? encoded with
    | some point =>
      scalar < groupOrder && !point.isSmallOrder && !owner.isSmallOrder &&
        let challenge := hashToScalar [encoded.toList, key.toList, message]
        ((Point.base.multiply scalar).add (owner.negate.multiply challenge)).encode == encoded
    | none => false
  | _, _ => false

/-- The scheme that the ledger runs on. -/
instance scheme : SignatureScheme where
  publicKey := publicKey
  sign := sign
  isKey := isKey
  accepts := accepts

end TokenLedger.Curve.Ed25519
