import TokenLedger.Proposal.Basic
import TokenLedger.SortedMap
/-!
Signatures over transaction ids, and the keys that make them.

What is signed is a tag followed by the transaction id, so a signature speaks for everything the id
is hashed from and for nothing else. A signature names the key that made it; it is valid for a party
if that key is the party's, is a key at all, and the scheme accepts the bytes.

A key store holds seeds under their public keys.
-/

namespace TokenLedger

variable [SignatureScheme]

/-- Why a signature could not be made or taken. -/
inductive SigningError where
  | notRequiredSignatory (party : Party)
  | noAvailableKey (party : Party)
  | invalidSignature (party : Party)
  /-- The signatures of these parties are missing. -/
  | incomplete (missing : List Party)
  | proposal (cause : ProposalError)
deriving DecidableEq, Repr

def SigningError.message : SigningError → String
  | .notRequiredSignatory party =>
    party.text ++ " is not a required signatory of this transaction"
  | .noAvailableKey party => "no signing key available for " ++ party.text
  | .invalidSignature party => "signature of " ++ party.text ++ " does not verify"
  | .incomplete missing => "transaction is missing signatures from: " ++ Party.texts missing
  | .proposal cause => cause.message

/-- The kind of the error in one word. -/
def SigningError.kind : SigningError → String
  | .notRequiredSignatory _ => "NotRequiredSignatory"
  | .noAvailableKey _ => "NoAvailableKey"
  | .invalidSignature _ => "InvalidSignature"
  | .incomplete _ => "Incomplete"
  | .proposal _ => "Proposal"

/-! ### Signatures -/

/-- The bytes of a signature and the key that made it. -/
structure Signature where
  signer : LedgerKey
  bytes : List UInt8
deriving DecidableEq, Repr

namespace Signature

/-- The fourteen bytes that stand before an id when it is signed. -/
def tag : List UInt8 :=
  [0x4c, 0x45, 0x44, 0x47, 0x45, 0x52, 0x46, 0x4c, 0x4f, 0x57, 0x5f, 0x53, 0x69, 0x67]

/-- The bytes that are signed to approve a transaction. -/
def preimage (id : TransactionId) : List UInt8 := tag ++ id.bytes.toList

/-- The short form of the key, and the bytes in hexadecimal. -/
def text (signature : Signature) : String :=
  signature.signer.short ++ "/" ++ Hex.encode signature.bytes

/-- Whether the signature approves a transaction on behalf of a party. -/
def verifies (signature : Signature) (party : Party) (id : TransactionId) : Bool :=
  signature.signer == party.key && SignatureScheme.isKey party.key.bytes
    && signature.bytes.length == signatureLength
    && SignatureScheme.accepts party.key.bytes (preimage id) signature.bytes

end Signature

/-! ### Key stores -/

/-- Seeds, held under their public keys. -/
structure KeyStore where
  seeds : SortedMap LedgerKey Bytes32

namespace KeyStore

def empty : KeyStore := ⟨.empty⟩

instance : Inhabited KeyStore := ⟨empty⟩

/-- The public key of a seed. -/
def keyOf (seed : Bytes32) : LedgerKey := ⟨SignatureScheme.publicKey seed⟩

/-- The store with one more seed. -/
def insert (store : KeyStore) (seed : Bytes32) : KeyStore :=
  ⟨store.seeds.insert (keyOf seed) seed⟩

/-- The store of the seeds of a list. -/
def ofSeeds (seeds : List Bytes32) : KeyStore := seeds.foldl insert empty

def size (store : KeyStore) : Nat := store.seeds.size

/-- Whether the seed of a key is held. -/
def holds (store : KeyStore) (key : LedgerKey) : Bool := store.seeds.contains key

/-- The signature of a message under a key, if its seed is held. -/
def signBytes (store : KeyStore) (key : LedgerKey) (message : List UInt8) : Option (List UInt8) :=
  (store.seeds.get? key).map fun seed => SignatureScheme.sign seed message

/-- A party's signature over a transaction id. -/
def signId (store : KeyStore) (id : TransactionId) (signer : Party) :
    Except SigningError Signature :=
  match store.signBytes signer.key (Signature.preimage id) with
  | some bytes => .ok ⟨signer.key, bytes⟩
  | none => .error (.noAvailableKey signer)

end KeyStore

end TokenLedger
