import TokenLedger.Proposal.Canonical
/-!
Which proposals are acceptable.

An acceptable proposal produces something and commands something; no input is consumed twice and the
proposal's notary governs every input; exactly the signatories of the commands are required to sign;
every output is sound; the window ends after it starts; and the id is the hash of the content.

`validate` reports the first rule that fails in that order. The inputs are walked once: at each it
is asked first whether it repeats an earlier one, then whether its notary is the proposal's.
-/

namespace TokenLedger.Proposal

/-- Reports the first input that repeats one of `earlier` or an input before it, or that another
notary governs. -/
def checkInputs (notary : Party) (earlier : List StateRef) :
    List Holding → Except ProposalError Unit
  | [] => .ok ()
  | input :: rest =>
    if input.ref ∈ earlier then .error (.duplicateInput input.ref)
    else if input.notary ≠ notary then .error (.notaryMismatch input.ref input.notary notary)
    else checkInputs notary (input.ref :: earlier) rest

/-- Reports the first output that is no token; the first of the list has the given index. -/
def checkOutputs (index : Nat) : List Token → Except ProposalError Unit
  | [] => .ok ()
  | output :: rest =>
    match output.validate with
    | .error cause => .error (.invalidOutput index cause)
    | .ok () => checkOutputs (index + 1) rest

/-- Reports the first rule that the proposal breaks. -/
def validate (proposal : Proposal) : Except ProposalError Unit := do
  if proposal.outputs = [] then throw .noOutputs
  if proposal.commands = .empty then throw .noCommands
  checkInputs proposal.notary [] proposal.inputs
  if proposal.requiredSignatories ≠ Command.allSignatories proposal.commands then
    throw .signatoryMismatch
  checkOutputs 0 proposal.outputs
  if proposal.timeWindow.stop ≤ proposal.timeWindow.start then
    throw (TimeWindow.invalid proposal.timeWindow.start proposal.timeWindow.stop)
  if proposal.contentId ≠ proposal.id then
    throw (.idMismatch proposal.id proposal.contentId)

end TokenLedger.Proposal
