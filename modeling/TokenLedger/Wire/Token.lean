import TokenLedger.Token
import TokenLedger.Wire.Party
/-!
Tokens and holdings on the wire. A token is read only if it is sound.
-/

namespace TokenLedger.Wire

open Json (Codec Fields)

/-- A token as it stands in a text, sound or not. -/
def uncheckedToken : Codec Token :=
  (Codec.record "struct RawToken"
    (.required "asset_id" .string <| .required "quantity" .word64 <| .required "owner" party
      <| .required "issuer" party <| .required "participants" (.list party) .none)).convert
    (fun (assetId, quantity, owner, issuer, participants, ()) =>
      ⟨assetId, quantity, owner, issuer, participants⟩)
    (fun token =>
      (token.assetId, token.quantity, token.owner, token.issuer, token.participants, ()))

def token : Codec Token :=
  uncheckedToken.checked
    (fun token => (token.validate.mapError TokenError.message).map fun () => token) id

def holding : Codec Holding :=
  (Codec.record "struct StateAndRef"
    (.required "state" token <| .required "notary" party
      <| .required "state_ref" stateRef .none)).convert
    (fun (token, notary, ref, ()) => ⟨token, notary, ref⟩)
    (fun holding => (holding.token, holding.notary, holding.ref, ()))

end TokenLedger.Wire
