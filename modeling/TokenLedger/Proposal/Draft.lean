import TokenLedger.Proposal.Validity
/-!
Proposals in the making.

A draft collects the parts of a proposal. Notary and window can be set again, the last one counts;
inputs and outputs are kept in order; commands form a set. `build` asks for a notary and a window,
requires the signatories of the commands, gives the proposal the hash of its content as its id, and
validates it.

`Proposal.create` mints a token: one create command for all its participants and no inputs.
`Proposal.move` gives a holding to a new owner: one move command for the present owner.
-/

namespace TokenLedger

/-- The parts of a proposal so far. -/
structure Draft where
  notary : Option Party
  timeWindow : Option TimeWindow
  inputs : List Holding
  outputs : List Token
  commands : SortedSet Command
deriving DecidableEq

namespace Draft

/-- The draft without parts. -/
def empty : Draft := ⟨none, none, [], [], .empty⟩

instance : Inhabited Draft := ⟨empty⟩

def withNotary (draft : Draft) (notary : Party) : Draft := { draft with notary := some notary }

def withTimeWindow (draft : Draft) (timeWindow : TimeWindow) : Draft :=
  { draft with timeWindow := some timeWindow }

/-- Sets the window between two instants, if they bound one. -/
def withTimeWindowBetween (draft : Draft) (start stop : Instant) : Except ProposalError Draft :=
  (TimeWindow.between start stop).map draft.withTimeWindow

theorem withTimeWindowBetween_eq_ok_iff {draft next : Draft} {start stop : Instant} :
    draft.withTimeWindowBetween start stop = .ok next ↔
      start < stop ∧ next = draft.withTimeWindow ⟨start, stop⟩ := by
  rw [withTimeWindowBetween]
  constructor
  · intro set
    cases bounded : TimeWindow.between start stop with
    | error cause =>
      rw [bounded] at set
      cases set
    | ok window =>
      obtain ⟨ordered, rfl⟩ := TimeWindow.between_eq_ok_iff.mp bounded
      rw [bounded] at set
      exact ⟨ordered, (Except.ok.inj set).symm⟩
  · rintro ⟨ordered, rfl⟩
    rw [TimeWindow.between_eq_ok_iff.mpr ⟨ordered, rfl⟩]
    rfl

def addInput (draft : Draft) (input : Holding) : Draft :=
  { draft with inputs := draft.inputs ++ [input] }

def addOutput (draft : Draft) (output : Token) : Draft :=
  { draft with outputs := draft.outputs ++ [output] }

/-- Adds a command; one that is there already stays once. -/
def addCommand (draft : Draft) (command : Command) : Draft :=
  { draft with commands := draft.commands.insert command }

/-- The proposal with the parts of the draft, and with the hash of its content as its id. -/
def assemble (draft : Draft) (notary : Party) (timeWindow : TimeWindow) : Proposal :=
  let content : Proposal :=
    { id := .zero
      notary
      timeWindow
      inputs := draft.inputs
      outputs := draft.outputs
      commands := draft.commands
      requiredSignatories := Command.allSignatories draft.commands }
  { content with id := content.contentId }

/-- The id is the hash of the content. -/
theorem contentId_assemble (draft : Draft) (notary : Party) (timeWindow : TimeWindow) :
    (draft.assemble notary timeWindow).contentId = (draft.assemble notary timeWindow).id := rfl

/-- A draft that keeps the rules makes an acceptable proposal. -/
theorem validate_assemble {draft : Draft} {notary : Party} {timeWindow : TimeWindow}
    (produces : draft.outputs ≠ []) (commands : draft.commands ≠ .empty)
    (consumes : Proposal.checkInputs notary [] draft.inputs = .ok ())
    (sound : Proposal.checkOutputs 0 draft.outputs = .ok ())
    (bounds : timeWindow.start < timeWindow.stop) :
    (draft.assemble notary timeWindow).validate = .ok () := by
  have identified := contentId_assemble draft notary timeWindow
  have ordered : ¬ timeWindow.stop ≤ timeWindow.start := Instant.not_le.mpr bounds
  unfold Proposal.validate
  rw [identified]
  simp [assemble, produces, commands, consumes, sound, ordered]
  rfl

/-- The validated proposal with the parts of the draft. -/
def build (draft : Draft) : Except ProposalError Proposal :=
  match draft.notary, draft.timeWindow with
  | none, _ => .error .missingNotary
  | some _, none => .error .missingTimeWindow
  | some notary, some timeWindow =>
    let proposal := draft.assemble notary timeWindow
    proposal.validate.map fun () => proposal

end Draft

namespace Proposal

/-- The proposal that mints a token, to be signed by everyone who takes part in it. -/
def create (notary : Party) (output : Token) (start stop : Instant) :
    Except ProposalError Proposal := do
  let draft ← (Draft.empty.withNotary notary).withTimeWindowBetween start stop
  ((draft.addOutput output).addCommand (.ofList .create output.participants)).build

/-- The proposal that gives a holding to a new owner, to be signed by the present one. -/
def move (notary : Party) (input : Holding) (newOwner : Party) (start stop : Instant) :
    Except ProposalError Proposal := do
  let draft ← (Draft.empty.withNotary notary).withTimeWindowBetween start stop
  (((draft.addInput input).addOutput (input.token.withOwner newOwner)).addCommand
    (.ofList .move [input.token.owner])).build

end Proposal

end TokenLedger
