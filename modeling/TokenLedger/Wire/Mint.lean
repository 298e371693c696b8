import TokenLedger.Flow.Mint
import TokenLedger.Json.Scan
import TokenLedger.Wire.Party
/-!
Requests and errors of the mint flow on the wire, and the flow as it is called with the text of a
request.
-/

namespace TokenLedger

open Json (Codec Fields Fault)

namespace Wire

def mintRequest : Codec MintRequest :=
  (Codec.record "struct MintRequest"
    (.required "assetId" .string <| .required "quantity" .signed64
      <| .required "owner" memberName <| .required "issuer" memberName .none)).convert
    (fun (assetId, quantity, owner, issuer, ()) => ⟨assetId, quantity, owner, issuer⟩)
    (fun request => (request.assetId, request.quantity, request.owner, request.issuer, ()))

def errorDetail : Codec ErrorDetail :=
  (Codec.record "struct ErrorDetail"
    (.required "kind" .string <| .required "message" .string .none)).convert
    (fun (kind, message, ()) => ⟨kind, message⟩)
    (fun detail => (detail.kind, detail.message, ()))

end Wire

/-- Why a call of the mint flow has no answer. -/
inductive CallStop where
  /-- The request could not be read. -/
  | invalidRequest (fault : Fault)
  | stopped (cause : MintStop)
deriving Repr

/-- Reads a request and runs the flow on it; the answer is the id of the transaction in
hexadecimal. -/
def MintFlow.call [SignatureScheme] [Timers] {σ : Type} (flow : MintFlow) (channel : Channel σ)
    (connection : Connection σ) (now : Instant) (text : String) :
    Except CallStop String × Connection σ :=
  match Json.decode Wire.mintRequest.read text with
  | .error fault => (.error (.invalidRequest fault), connection)
  | .ok request =>
    let (result, connection) := flow.run channel connection now request
    (result.mapError .stopped, connection)

end TokenLedger
