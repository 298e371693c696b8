import TokenLedger.Json.Choice
import TokenLedger.Proposal.Validity
import TokenLedger.Wire.Token
/-!
Windows, commands and proposals on the wire. A window is read only if it ends after it starts, and a
proposal only if it is acceptable; in particular its id has to be the hash of its content.
-/

namespace TokenLedger.Wire

open Json (Codec Fields Variant)

/-- An instant, as a timestamp in UTC. -/
def instant : Codec Instant where
  read
    | .string wanted _ => do
      let text ← Json.sound wanted
      match Timestamp.parse text with
      | some instant => return instant
      | none => throw (.unfit (.rejection "invalid timestamp"))
    | other => throw (other.mismatch "an RFC 3339 formatted date and time string")
  write instant := .string (Timestamp.render "Z" instant)

def timeWindow : Codec TimeWindow :=
  (Codec.record "struct RawTimeWindow"
    (.required "from" instant <| .required "until" instant .none)).checked
    (fun (start, stop, ()) => (TimeWindow.between start stop).mapError ProposalError.message)
    (fun window => (window.start, window.stop, ()))

/-- The name of a kind of command. -/
def kindName : CommandKind → String
  | .create => "Create"
  | .move => "Move"

def commandKind : Codec CommandKind where
  read := Variant.read
    [⟨kindName .create, .alone .create⟩, ⟨kindName .move, .alone .move⟩]
  write kind := .string (kindName kind)

def command : Codec Command :=
  (Codec.record "struct Command"
    (.required "kind" commandKind <| .required "signatories" (set party) .none)).convert
    (fun (kind, signatories, ()) => ⟨kind, signatories⟩)
    (fun command => (command.kind, command.signatories, ()))

/-- A proposal as it stands in a text, acceptable or not. -/
def uncheckedProposal : Codec Proposal :=
  (Codec.record "struct RawTransactionProposal"
    (.required "id" transactionId <| .required "notary" party
      <| .required "time_window" timeWindow <| .required "inputs" (.list holding)
      <| .required "outputs" (.list token) <| .required "commands" (set command)
      <| .required "required_signatories" (set party) .none)).convert
    (fun (id, notary, timeWindow, inputs, outputs, commands, requiredSignatories, ()) =>
      ⟨id, notary, timeWindow, inputs, outputs, commands, requiredSignatories⟩)
    (fun proposal =>
      (proposal.id, proposal.notary, proposal.timeWindow, proposal.inputs, proposal.outputs,
        proposal.commands, proposal.requiredSignatories, ()))

def proposal : Codec Proposal :=
  uncheckedProposal.checked
    (fun proposal => (proposal.validate.mapError ProposalError.message).map fun () => proposal) id

end TokenLedger.Wire
