import Mathlib.Data.List.Nodup
import Mathlib.Tactic.SplitIfs
import TokenLedger.Proposal.Validity
/-!
Which proposals are accepted, as rules.

`validate` goes through a proposal and stops at the first fault (`validate_eq` writes out in which
order). `Acceptable` lists the rules with no order among them, and `validate_eq_ok_iff` says that
the proposals without a fault are those that keep all of them. Two of its steps are walks: over the
inputs with a list of the references that came before (`checkInputs_eq_ok_iff`), and over the
outputs with their index (`checkOutputs_eq_ok_iff`).
-/

namespace TokenLedger.Proposal

/-- Inputs pass if their references are pairwise different and not among the earlier ones, and all
of them are of the notary. -/
theorem checkInputs_eq_ok_iff {notary : Party} {earlier : List StateRef} {inputs : List Holding} :
    checkInputs notary earlier inputs = .ok () ↔
      (inputs.map Holding.ref).Nodup ∧ (∀ input ∈ inputs, input.ref ∉ earlier) ∧
        ∀ input ∈ inputs, input.notary = notary := by
  induction inputs generalizing earlier with
  | nil => simp [checkInputs]
  | cons input rest ih =>
    rw [checkInputs, List.map_cons, List.nodup_cons, List.forall_mem_cons, List.forall_mem_cons]
    split_ifs with repeated elsewhere
    · simp [repeated]
    · simp [elsewhere]
    · -- the reference of this input is among the earlier ones of the rest
      have governed : input.notary = notary := not_not.mp elsewhere
      simp only [ih, List.mem_cons, List.mem_map, not_or, not_exists, not_and]
      constructor
      · rintro ⟨distinct, unseen, governs⟩
        exact ⟨⟨fun other found => (unseen other found).1, distinct⟩,
          ⟨repeated, fun other found => (unseen other found).2⟩, governed, governs⟩
      · rintro ⟨⟨apart, distinct⟩, ⟨-, unseen⟩, -, governs⟩
        exact ⟨distinct, fun other found => ⟨apart other found, unseen other found⟩, governs⟩

/-- Outputs pass if all of them are sound. -/
theorem checkOutputs_eq_ok_iff {index : Nat} {outputs : List Token} :
    checkOutputs index outputs = .ok () ↔ ∀ output ∈ outputs, output.Sound := by
  induction outputs generalizing index with
  | nil => simp [checkOutputs]
  | cons output rest ih =>
    rw [checkOutputs, List.forall_mem_cons, ← Token.validate_eq_ok_iff]
    cases output.validate with
    | error cause => simp
    | ok => simp [ih]

/-- The checks in their order, each of which is made only if those before it passed. -/
theorem validate_eq (proposal : Proposal) : proposal.validate =
    if proposal.outputs = [] then .error .noOutputs
    else if proposal.commands = .empty then .error .noCommands
    else match checkInputs proposal.notary [] proposal.inputs with
    | .error cause => .error cause
    | .ok () =>
      if proposal.requiredSignatories ≠ Command.allSignatories proposal.commands then
        .error .signatoryMismatch
      else match checkOutputs 0 proposal.outputs with
      | .error cause => .error cause
      | .ok () =>
        if proposal.timeWindow.stop ≤ proposal.timeWindow.start then
          .error (TimeWindow.invalid proposal.timeWindow.start proposal.timeWindow.stop)
        else if proposal.contentId ≠ proposal.id then
          .error (.idMismatch proposal.id proposal.contentId)
        else .ok () := by
  dsimp only [validate]
  by_cases unproductive : proposal.outputs = []
  · rw [if_pos unproductive, if_pos unproductive]
    rfl
  by_cases idle : proposal.commands = .empty
  · rw [if_neg unproductive, if_neg unproductive, if_pos idle, if_pos idle]
    rfl
  rw [if_neg unproductive, if_neg unproductive, if_neg idle, if_neg idle]
  cases checkInputs proposal.notary [] proposal.inputs with
  | error cause => rfl
  | ok =>
    by_cases mismatch : proposal.requiredSignatories ≠ Command.allSignatories proposal.commands
    · simp only [if_pos mismatch]
      rfl
    simp only [if_neg mismatch]
    cases checkOutputs 0 proposal.outputs with
    | error cause => rfl
    | ok =>
      by_cases inverted : proposal.timeWindow.stop ≤ proposal.timeWindow.start
      · simp only [if_pos inverted]
        rfl
      simp only [if_neg inverted]
      by_cases misnamed : proposal.contentId ≠ proposal.id
      · simp only [if_pos misnamed]
        rfl
      · simp only [if_neg misnamed]
        rfl

/-- What a proposal has to keep. -/
structure Acceptable (proposal : Proposal) : Prop where
  produces : proposal.outputs ≠ []
  commanded : proposal.commands ≠ .empty
  distinct : proposal.inputRefs.Nodup
  governed : ∀ input ∈ proposal.inputs, input.notary = proposal.notary
  signatories_eq : proposal.requiredSignatories = Command.allSignatories proposal.commands
  sound : ∀ output ∈ proposal.outputs, output.Sound
  ordered : proposal.timeWindow.start < proposal.timeWindow.stop
  identified : proposal.contentId = proposal.id

/-- **Validation accepts exactly the acceptable proposals.** -/
theorem validate_eq_ok_iff {proposal : Proposal} :
    proposal.validate = .ok () ↔ proposal.Acceptable := by
  rw [validate_eq]
  constructor
  · intro accepted
    -- in every branch but the last the proposal is refused
    split at accepted
    · cases accepted
    rename_i produces
    split at accepted
    · cases accepted
    rename_i commanded
    split at accepted
    · cases accepted
    rename_i passed
    split at accepted
    · cases accepted
    rename_i signatories_eq
    split at accepted
    · cases accepted
    rename_i sound
    split at accepted
    · cases accepted
    rename_i ordered
    split at accepted
    · cases accepted
    rename_i identified
    obtain ⟨distinct, -, governed⟩ := checkInputs_eq_ok_iff.mp passed
    exact ⟨produces, commanded, distinct, governed, not_not.mp signatories_eq,
      checkOutputs_eq_ok_iff.mp sound, Instant.not_le.mp ordered, not_not.mp identified⟩
  · rintro ⟨produces, commanded, distinct, governed, signatories_eq, sound, ordered, identified⟩
    have passed : checkInputs proposal.notary [] proposal.inputs = .ok () :=
      checkInputs_eq_ok_iff.mpr ⟨distinct, fun _ _ => List.not_mem_nil, governed⟩
    have outputs : checkOutputs 0 proposal.outputs = .ok () := checkOutputs_eq_ok_iff.mpr sound
    simp only [if_neg produces, if_neg commanded, passed, if_neg (not_not.mpr signatories_eq),
      outputs, if_neg (Instant.not_le.mpr ordered), if_neg (not_not.mpr identified)]

end TokenLedger.Proposal
