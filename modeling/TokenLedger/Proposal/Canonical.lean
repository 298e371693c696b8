import TokenLedger.Proposal.Basic
/-!
The canonical bytes of a proposal, and the id hashed from them.

The encoding has no separators: every part has a fixed width or says its length first. Numbers are
little endian, in eight bytes, or four for an output index and a command kind; texts and lists begin
with their length; keys and ids are their thirty-two bytes. Sets are written in their order and the
participants of an output are written as a set, so that listing them in another order or more than
once does not change the id.

What is bound are the notary, the bounds of the window in whole microseconds, the references of the
inputs, the outputs, the commands and the required signatories. The id itself is not part of it.
-/

namespace TokenLedger.Canonical

/-- A count or a length, in eight bytes. -/
def count (number : Nat) : List UInt8 := littleEndian 8 number

/-- A signed number in eight bytes, negative ones modulo `2 ^ 64`. -/
def signed (number : Int) : List UInt8 := littleEndian 8 (number % UInt64.size).toNat

/-- A text: its length in UTF-8 bytes, and those bytes. -/
def text (value : String) : List UInt8 := count (utf8 value).length ++ utf8 value

/-- A list: its length, and its elements one after the other. -/
def list {α : Type} (element : α → List UInt8) (values : List α) : List UInt8 :=
  count values.length ++ values.flatMap element

def party (value : Party) : List UInt8 := text value.name.text ++ value.key.bytes.toList

/-- A set of parties, in its order. -/
def parties (values : SortedSet Party) : List UInt8 := list party values.toList

def stateRef (value : StateRef) : List UInt8 :=
  value.transactionId.bytes.toList ++ littleEndian 4 value.index.toNat

/-- A token, its participants as a set. -/
def token (value : Token) : List UInt8 :=
  text value.assetId ++ littleEndian 8 value.quantity.toNat ++ party value.owner
    ++ party value.issuer ++ parties (.ofList value.participants)

def command (value : Command) : List UInt8 :=
  littleEndian 4 value.kind.rank ++ parties value.signatories

end Canonical

namespace Proposal

/-- The bytes that the id is hashed from. -/
def canonicalBytes (proposal : Proposal) : List UInt8 :=
  Canonical.party proposal.notary
    ++ Canonical.signed proposal.timeWindow.start.micros
    ++ Canonical.signed proposal.timeWindow.stop.micros
    ++ Canonical.list Canonical.stateRef proposal.inputRefs
    ++ Canonical.list Canonical.token proposal.outputs
    ++ Canonical.list Canonical.command proposal.commands.toList
    ++ Canonical.parties proposal.requiredSignatories

/-- The id that the content hashes to. -/
def contentId (proposal : Proposal) : TransactionId :=
  .ofCanonicalBytes proposal.canonicalBytes

end Proposal

end TokenLedger
