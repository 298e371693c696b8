import TokenLedger.Bytes
/-!
What the ledger asks of a signature scheme.

Everything else about signing, collecting and checking signatures is stated over a scheme and not
over the curve: a seed of thirty-two bytes has a public key of thirty-two bytes, a seed signs a
message, and a key checks a signature. `SignatureScheme.AcceptsOwn` says that a scheme accepts its
own signature, and is the one fact about cryptography that any statement about signing rests on. It
is asked for one seed and one message at a time, and not of a scheme as a whole: a strict check
refuses the odd signature whose random part happens to be neutral.
-/

namespace TokenLedger

/-- A way to sign messages with a seed and to check signatures with a public key. -/
class SignatureScheme where
  /-- The public half of a seed. -/
  publicKey : Bytes32 → Bytes32
  /-- The signature of a message under a seed. -/
  sign : Bytes32 → List UInt8 → List UInt8
  /-- Whether these bytes are a public key at all. -/
  isKey : Bytes32 → Bool
  /-- Whether a signature of the right length is accepted for a message under a key. -/
  accepts : Bytes32 → List UInt8 → List UInt8 → Bool

/-- The length of every signature, in bytes. -/
def signatureLength : Nat := 64

/-- The scheme accepts its own signature of a message under a seed: the public key is a key, and the
signature has the right length and is accepted. -/
structure SignatureScheme.AcceptsOwn [SignatureScheme] (seed : Bytes32) (message : List UInt8) :
    Prop where
  isKey_publicKey : SignatureScheme.isKey (SignatureScheme.publicKey seed) = true
  length_sign : (SignatureScheme.sign seed message).length = signatureLength
  accepts_sign : SignatureScheme.accepts (SignatureScheme.publicKey seed) message
    (SignatureScheme.sign seed message) = true

end TokenLedger
