import TokenLedger.Hash.Sha256
import TokenLedger.Hex
import TokenLedger.Signing.Scheme
/-!
Identifiers: transaction ids, ledger keys and state references.

A transaction id is the SHA-256 hash of a tag and of the canonical bytes of a proposal. A ledger key
is the public half of a signing key. Both are blocks of thirty-two bytes with a hexadecimal text
form. A state reference points at one output of a transaction.
-/

namespace TokenLedger

/-- Why a text or a block of bytes is no identifier. -/
inductive IdError where
  | invalidHex (cause : Hex.HexError)
  /-- The text holds this many bytes instead of thirty-two. -/
  | invalidLength (actual : Nat)
  /-- The bytes are no public key. -/
  | invalidKey (bytes : Bytes32)
deriving DecidableEq, Repr

def IdError.message : IdError → String
  | .invalidHex cause => "Invalid hex encoding: " ++ cause.message
  | .invalidLength actual => "Expected 32 bytes, got " ++ toString actual
  | .invalidKey bytes => "Not a valid ed25519 public key: " ++ Hex.encode bytes.toList

/-- The kind of the error in one word. -/
def IdError.kind : IdError → String
  | .invalidHex _ => "InvalidHex"
  | .invalidLength _ => "InvalidLength"
  | .invalidKey _ => "InvalidKey"

/-- The thirty-two bytes that a text writes in hexadecimal. -/
def Bytes32.parse (text : String) : Except IdError Bytes32 :=
  match Hex.decode text with
  | .error cause => .error (.invalidHex cause)
  | .ok bytes =>
    match Bytes32.ofList? bytes with
    | some block => .ok block
    | none => .error (.invalidLength bytes.length)

/-! ### Transaction ids -/

/-- The name of a transaction: the hash of what it says. -/
structure TransactionId where
  bytes : Bytes32
deriving DecidableEq, Repr, Inhabited

namespace TransactionId

/-- The thirteen bytes that stand before the canonical bytes when an id is made, so that no id is
also the hash of something else. -/
def tag : List UInt8 :=
  [0x4c, 0x45, 0x44, 0x47, 0x45, 0x52, 0x46, 0x4c, 0x4f, 0x57, 0x5f, 0x54, 0x78]

/-- The id of a canonical encoding. -/
def ofCanonicalBytes (encoded : List UInt8) : TransactionId :=
  ⟨Hash.Sha256.hash (tag ++ encoded)⟩

/-- The sixty-four hexadecimal digits of the id. -/
def toHex (id : TransactionId) : String := Hex.encode id.bytes.toList

/-- The id that a text writes in hexadecimal. -/
def parse (text : String) : Except IdError TransactionId :=
  (Bytes32.parse text).map mk

/-- The id of thirty-two zero bytes, which stands in until the content is known. -/
def zero : TransactionId := ⟨Bytes32.replicate 0⟩

instance : Ord TransactionId where
  compare := compareOn bytes

instance : Std.TransOrd TransactionId :=
  inferInstanceAs (Std.TransCmp (compareOn TransactionId.bytes))

instance : Std.LawfulEqOrd TransactionId where
  eq_of_compare {left right} h := by
    have same : left.bytes = right.bytes := Std.LawfulEqOrd.eq_of_compare (α := Bytes32) h
    cases left; cases right; cases same; rfl

end TransactionId

/-! ### Ledger keys -/

/-- The public half of a member's signing key. -/
structure LedgerKey where
  bytes : Bytes32
deriving DecidableEq, Repr, Inhabited

namespace LedgerKey

/-- The sixty-four hexadecimal digits of the key. -/
def toHex (key : LedgerKey) : String := Hex.encode key.bytes.toList

/-- The key that a text writes in hexadecimal. -/
def parse (text : String) : Except IdError LedgerKey :=
  (Bytes32.parse text).map mk

/-- The short form shown to people: the first six bytes. -/
def short (key : LedgerKey) : String := "key:" ++ Hex.encode (key.bytes.toList.take 6)

/-- The key itself, if its bytes are a public key. -/
def verifyingKey [SignatureScheme] (key : LedgerKey) : Except IdError LedgerKey :=
  if SignatureScheme.isKey key.bytes then .ok key else .error (.invalidKey key.bytes)

instance : Ord LedgerKey where
  compare := compareOn bytes

instance : Std.TransOrd LedgerKey :=
  inferInstanceAs (Std.TransCmp (compareOn LedgerKey.bytes))

instance : Std.LawfulEqOrd LedgerKey where
  eq_of_compare {left right} h := by
    have same : left.bytes = right.bytes := Std.LawfulEqOrd.eq_of_compare (α := Bytes32) h
    cases left; cases right; cases same; rfl

end LedgerKey

/-! ### State references -/

/-- A pointer at one output of a finalized transaction. -/
structure StateRef where
  transactionId : TransactionId
  index : UInt32
deriving DecidableEq, Repr, Inhabited

namespace StateRef

/-- The id and the index with a colon between them. -/
def text (ref : StateRef) : String :=
  ref.transactionId.toHex ++ ":" ++ toString ref.index.toNat

instance : Ord StateRef where
  compare := compareLex (compareOn transactionId) (compareOn index)

instance : Std.TransOrd StateRef :=
  inferInstanceAs (Std.TransCmp (compareLex (compareOn transactionId) (compareOn index)))

instance : Std.LawfulEqOrd StateRef where
  eq_of_compare {left right} h := by
    obtain ⟨ids, indices⟩ := compareLex_eq_eq.mp h
    have sameId : left.transactionId = right.transactionId :=
      Std.LawfulEqOrd.eq_of_compare (α := TransactionId) ids
    have sameIndex : left.index = right.index :=
      Std.LawfulEqOrd.eq_of_compare (α := UInt32) indices
    cases left; cases right; cases sameId; cases sameIndex; rfl

end StateRef

end TokenLedger
