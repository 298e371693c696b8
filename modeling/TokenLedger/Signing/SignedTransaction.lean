import TokenLedger.Proposal.Canonical
import TokenLedger.Signing.Signature
/-!
A proposal and the signatures collected for it.

Signatures are kept per party. The transaction is complete when every required signatory has one
(`missing` lists those who have not, in the order of parties). `verify` is what a notary asks:
nobody is missing, the id is the hash of the content, and every required signature is valid; a
missing signature is reported before an invalid one.

Collecting takes a signature only from a required signatory: `signAs` makes it with a local key,
`add` takes one made elsewhere after checking it.
-/

namespace TokenLedger

variable [SignatureScheme]

/-- A proposal together with signatures. -/
structure SignedTransaction where
  proposal : Proposal
  signatures : SortedMap Party Signature
deriving DecidableEq

namespace SignedTransaction

/-- The proposal without signatures. -/
def unsigned (proposal : Proposal) : SignedTransaction := ⟨proposal, .empty⟩

def id (signed : SignedTransaction) : TransactionId := signed.proposal.id

/-- Whether a party has to sign. -/
def requires (signed : SignedTransaction) (party : Party) : Prop :=
  party ∈ signed.proposal.requiredSignatories

instance (signed : SignedTransaction) (party : Party) : Decidable (signed.requires party) :=
  inferInstanceAs (Decidable (party ∈ signed.proposal.requiredSignatories))

/-! ### Collecting signatures -/

/-- The transaction with a party's signature in place of an earlier one. -/
def attach (signed : SignedTransaction) (party : Party) (signature : Signature) :
    SignedTransaction :=
  { signed with signatures := signed.signatures.insert party signature }

/-- A required signatory's signature, made with a local key. -/
def signatureFor (signed : SignedTransaction) (signer : Party) (keys : KeyStore) :
    Except SigningError Signature :=
  if ¬ signed.requires signer then .error (.notRequiredSignatory signer)
  else if ¬ keys.holds signer.key then .error (.noAvailableKey signer)
  else keys.signId signed.id signer

/-- Signs with a local key. -/
def signAs (signed : SignedTransaction) (signer : Party) (keys : KeyStore) :
    Except SigningError SignedTransaction :=
  (signed.signatureFor signer keys).map (signed.attach signer)

/-- Takes a signature that was made elsewhere, after checking it. -/
def add (signed : SignedTransaction) (signer : Party) (signature : Signature) :
    Except SigningError SignedTransaction :=
  if ¬ signed.requires signer then .error (.notRequiredSignatory signer)
  else if ¬ signature.verifies signer signed.id then .error (.invalidSignature signer)
  else .ok (signed.attach signer signature)

/-! ### Checking signatures -/

/-- The required signatories without a signature, in order. -/
def missing (signed : SignedTransaction) : List Party :=
  signed.proposal.requiredSignatories.toList.filter fun party =>
    !signed.signatures.contains party

/-- Whether every required signatory has a signature. -/
def isComplete (signed : SignedTransaction) : Bool := signed.missing.isEmpty

/-- Whether a party has a signature that is valid for the content. -/
def isSignedBy (signed : SignedTransaction) (party : Party) : Bool :=
  match signed.signatures.get? party with
  | some signature =>
    signed.proposal.contentId == signed.id && signature.verifies party signed.id
  | none => false

/-- Reports the first party whose signature is missing, else the first whose signature is not valid
for the content. -/
def verify (signed : SignedTransaction) : Except RejectionReason Unit :=
  match signed.missing with
  | party :: _ => .error (.missingSignature party)
  | [] =>
    match signed.proposal.requiredSignatories.toList.find?
        fun party => !signed.isSignedBy party with
    | some party => .error (.invalidSignature party)
    | none => .ok ()

end SignedTransaction

/-- The proposal with a first signature, made with a local key. -/
def Proposal.sign (proposal : Proposal) (signer : Party) (keys : KeyStore) :
    Except SigningError SignedTransaction :=
  (SignedTransaction.unsigned proposal).signAs signer keys

end TokenLedger
