import TokenLedger.Signing.SignedTransaction
import TokenLedger.Wire.Proposal
/-!
Signatures and signed transactions on the wire.

The signatures of a transaction are kept under parties, and a party is no string, so that a map of
signatures has no JSON form unless it is empty: writing a transaction with signatures fails, and no
member can stand in the object that signatures are read from.
-/

namespace TokenLedger.Wire

open Json (Codec Fields Fault Outline)

def signature : Codec Signature :=
  (Codec.record "struct DigitalSignature"
    (.required "by" ledgerKey <| .required "bytes" (.list .byte) .none)).convert
    (fun (signer, bytes, ()) => ⟨signer, bytes⟩)
    (fun signature => (signature.signer, signature.bytes, ()))

/-- Why a value has no JSON form. -/
inductive WriteError where
  /-- The key of a map entry is no string. -/
  | keyNotText
deriving DecidableEq, Repr

def WriteError.message : WriteError → String
  | .keyNotText => "key must be a string"

/-- Reads the signatures of a transaction, of which there can be none: the name of a member is a
string, and a party is a record. -/
def readSignatures : Outline → Except Fault (SortedMap Party Signature)
  | .object [] finish => do
    Json.sound finish
    return .empty
  | .object ((key, _) :: _) _ => do
    let name ← Json.sound key.name
    throw (.unfit (.wrongType (.string name) "struct Party"))
  | other => throw (other.mismatch "a map")

/-- The codec of signed transactions as far as they have a JSON form; signatures are left out. -/
def unsignedForm : Codec SignedTransaction :=
  (Codec.record "struct SignedTransaction"
    (.required "proposal" proposal
      <| .required "signatures" ⟨readSignatures, fun _ => .object []⟩ .none)).convert
    (fun (proposal, signatures, ()) => ⟨proposal, signatures⟩)
    (fun signed => (signed.proposal, signed.signatures, ()))

/-- Reads a signed transaction. -/
def readSigned : Outline → Except Fault SignedTransaction := unsignedForm.read

/-- Writes a signed transaction, if it has no signatures. -/
def writeSigned (signed : SignedTransaction) : Except WriteError Json :=
  if signed.signatures.toList.isEmpty then .ok (unsignedForm.write signed) else .error .keyNotText

end TokenLedger.Wire
