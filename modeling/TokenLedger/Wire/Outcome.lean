import TokenLedger.Json.Choice
import TokenLedger.Outcome
import TokenLedger.Wire.Party
/-!
Outcomes, their reasons and causes, and stages on the wire.
-/

namespace TokenLedger.Wire

open Json (Codec Fields Variant)

/-- The fields of a double spend. -/
def conflicts : Codec (List StateRef) :=
  (Codec.record "struct variant RejectionReason::DoubleSpend"
    (.required "conflicts" (.list stateRef) .none)).convert
    (fun (conflicts, ()) => conflicts) (fun conflicts => (conflicts, ()))

/-- The name of a reason. -/
def reasonName : RejectionReason → String
  | .doubleSpend _ => "DoubleSpend"
  | .missingSignature _ => "MissingSignature"
  | .invalidSignature _ => "InvalidSignature"
  | .windowExpired => "WindowExpired"
  | .windowNotYetValid => "WindowNotYetValid"

/-- The name of a cause. -/
def causeName : UnreachableCause → String
  | .timeout => "Timeout"
  | .network _ => "Network"

/-- The name of an outcome. -/
def outcomeName : Outcome → String
  | .finalized _ => "Finalized"
  | .rejected _ => "Rejected"
  | .unreachable _ => "Unreachable"

def rejectionReason : Codec RejectionReason where
  read := Variant.read
    [⟨"DoubleSpend", .fields fun outline => (conflicts.read outline).map .doubleSpend⟩,
      ⟨"MissingSignature", .single fun outline => (party.read outline).map .missingSignature⟩,
      ⟨"InvalidSignature", .single fun outline => (party.read outline).map .invalidSignature⟩,
      ⟨"WindowExpired", .alone .windowExpired⟩,
      ⟨"WindowNotYetValid", .alone .windowNotYetValid⟩]
  write reason :=
    match reason with
    | .doubleSpend refs => .object [(reasonName reason, conflicts.write refs)]
    | .missingSignature signer | .invalidSignature signer =>
      .object [(reasonName reason, party.write signer)]
    | .windowExpired | .windowNotYetValid => .string (reasonName reason)

def unreachableCause : Codec UnreachableCause where
  read := Variant.read
    [⟨"Timeout", .alone .timeout⟩,
      ⟨"Network", .single fun outline => (Codec.string.read outline).map .network⟩]
  write cause :=
    match cause with
    | .timeout => .string (causeName cause)
    | .network detail => .object [(causeName cause, .string detail)]

/-- The one field of an outcome. -/
def outcomeField {α : Type} (variant name : String) (codec : Codec α) : Codec α :=
  (Codec.record ("struct variant FinalizationOutcome::" ++ variant)
    (.required name codec .none)).convert
    (fun (value, ()) => value) (fun value => (value, ()))

def finalizedContent : Codec TransactionId :=
  outcomeField "Finalized" "transaction_id" transactionId

def rejectedContent : Codec RejectionReason := outcomeField "Rejected" "reason" rejectionReason

def unreachableContent : Codec UnreachableCause :=
  outcomeField "Unreachable" "cause" unreachableCause

def outcome : Codec Outcome where
  read := Variant.read
    [⟨"Finalized", .fields fun outline => (finalizedContent.read outline).map .finalized⟩,
      ⟨"Rejected", .fields fun outline => (rejectedContent.read outline).map .rejected⟩,
      ⟨"Unreachable", .fields fun outline => (unreachableContent.read outline).map .unreachable⟩]
  write outcome :=
    match outcome with
    | .finalized id => .object [(outcomeName outcome, finalizedContent.write id)]
    | .rejected reason => .object [(outcomeName outcome, rejectedContent.write reason)]
    | .unreachable cause => .object [(outcomeName outcome, unreachableContent.write cause)]

/-- The name of a stage. -/
def stageName : Stage → String
  | .built => "Built"
  | .submitted => "Submitted"
  | .finalized => "Finalized"
  | .rejected => "Rejected"
  | .unreachable => "Unreachable"

def stage : Codec Stage where
  read := Variant.read
    ([.built, .submitted, .finalized, .rejected, .unreachable].map fun stage =>
      ⟨stageName stage, .alone stage⟩)
  write stage := .string (stageName stage)

end TokenLedger.Wire
