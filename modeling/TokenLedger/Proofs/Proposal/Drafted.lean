import TokenLedger.Proofs.Proposal.Validity
import TokenLedger.Proposal.Draft
/-!
The two proposals that are drafted for a token: the one that mints it (`Proposal.minting`), and the
one that gives it to a new owner (`Proposal.moving`).

Both are made whenever the token is sound and the window ends after it starts (`create_eq`,
`move_eq`), the second for a holding of the notary that it is submitted to. Who has to sign is
everyone who takes part in the token (`mem_signatories_minting`), or its owner alone
(`signatories_moving`).
-/

namespace TokenLedger.Proposal

variable {notary newOwner : Party} {output : Token} {input : Holding} {start stop : Instant}
  {window : TimeWindow}

/-- The proposal that mints a token in a window. -/
def minting (notary : Party) (output : Token) (window : TimeWindow) : Proposal :=
  ((Draft.empty.addOutput output).addCommand (.ofList .create output.participants)).assemble notary
    window

/-- The proposal that gives a holding to a new owner in a window. -/
def moving (notary : Party) (input : Holding) (newOwner : Party) (window : TimeWindow) : Proposal :=
  (((Draft.empty.addInput input).addOutput (input.token.withOwner newOwner)).addCommand
    (.ofList .move [input.token.owner])).assemble notary window

/-- With a command the parts of a draft make a proposal, if the inputs pass and the outputs are
sound. -/
theorem validate_addCommand {draft : Draft} {command : Command} (produces : draft.outputs ≠ [])
    (consumes : checkInputs notary [] draft.inputs = .ok ())
    (sound : ∀ output ∈ draft.outputs, output.Sound) (ordered : window.start < window.stop) :
    ((draft.addCommand command).assemble notary window).validate = .ok () := by
  refine Draft.validate_assemble produces ?_ consumes (checkOutputs_eq_ok_iff.mpr sound) ordered
  intro none_at_all
  have listed : command ∈ (SortedSet.empty : SortedSet Command) :=
    none_at_all ▸ SortedSet.mem_insert.mpr (Or.inl rfl)
  exact SortedSet.not_mem_empty _ listed

/-- **A sound token is minted in every window.** -/
theorem create_eq (sound : output.Sound) (ordered : start < stop) :
    create notary output start stop = .ok (minting notary output ⟨start, stop⟩) := by
  have valid : (minting notary output ⟨start, stop⟩).validate = .ok () :=
    validate_addCommand (List.cons_ne_nil _ _) rfl (List.forall_mem_singleton.mpr sound) ordered
  rw [create, Draft.withTimeWindowBetween_eq_ok_iff.mpr ⟨ordered, rfl⟩]
  show (minting notary output ⟨start, stop⟩).validate.map _ = _
  rw [valid]
  rfl

/-- **A holding of a sound token is moved in every window**, by the notary that governs it. -/
theorem move_eq (sound : input.token.Sound) (governed : input.notary = notary)
    (ordered : start < stop) :
    move notary input newOwner start stop = .ok (moving notary input newOwner ⟨start, stop⟩) := by
  have consumes : checkInputs notary [] [input] = .ok () := by
    rw [checkInputs_eq_ok_iff]
    exact ⟨List.nodup_singleton _, fun _ _ => List.not_mem_nil,
      List.forall_mem_singleton.mpr governed⟩
  have valid : (moving notary input newOwner ⟨start, stop⟩).validate = .ok () :=
    validate_addCommand (List.cons_ne_nil _ _) consumes
      (List.forall_mem_singleton.mpr (sound.withOwner newOwner)) ordered
  rw [move, Draft.withTimeWindowBetween_eq_ok_iff.mpr ⟨ordered, rfl⟩]
  show (moving notary input newOwner ⟨start, stop⟩).validate.map _ = _
  rw [valid]
  rfl

/-- Everyone who takes part has to sign. -/
theorem mem_signatories_minting {party : Party} :
    party ∈ (minting notary output window).requiredSignatories ↔ party ∈ output.participants := by
  show party ∈ SortedSet.union [SortedSet.ofList output.participants] ↔ _
  rw [SortedSet.mem_union]
  simp only [List.mem_singleton, exists_eq_left, SortedSet.mem_ofList]

/-- The owner has to sign, and nobody else. -/
theorem signatories_moving :
    (moving notary input newOwner window).requiredSignatories.toList = [input.token.owner] := rfl

end TokenLedger.Proposal
