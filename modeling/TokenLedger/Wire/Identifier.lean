import TokenLedger.Identifier
import TokenLedger.Json.Record
/-!
Identifiers on the wire: ids and keys are arrays of thirty-two numbers, and a state reference is a
record of an id and an index.
-/

namespace TokenLedger.Wire

open Json (Codec Fields)

/-- A block of thirty-two bytes, as their numbers. -/
def bytes32 : Codec Bytes32 where
  read outline := do
    let bytes ← (Codec.count 32 .byte).read outline
    match Bytes32.ofList? bytes with
    | some block => return block
    | none => throw (.unfit (.wrongLength bytes.length (Codec.count.arrayOf 32)))
  write block := (Codec.count 32 .byte).write block.toList

def transactionId : Codec TransactionId := bytes32.convert .mk TransactionId.bytes

def ledgerKey : Codec LedgerKey := bytes32.convert .mk LedgerKey.bytes

def stateRef : Codec StateRef :=
  (Codec.record "struct StateRef"
    (.required "transaction_id" transactionId <| .required "index" .word32 .none)).convert
    (fun (transactionId, index, ()) => ⟨transactionId, index⟩)
    (fun ref => (ref.transactionId, ref.index, ()))

end TokenLedger.Wire
