import TokenLedger.Proofs.First
import TokenLedger.Proofs.Proposal.Validity
/-!
Which fault of a proposal is reported.

A proposal can break several rules at once. `Rule.inOrder` is the order in which they are asked
about, and `Breaks` says of each rule by itself what it reports when it is broken; validation
reports what the first broken rule says (`validate_exact`). Two of the rules are about lists, and
report their first offender:

* an input offends if its reference was that of an earlier input or if another notary governs it;
  it is reported as a repetition if it is one, whatever its notary (`checkInputs_eq_error_iff`);
* an output offends if it is no token; its own first fault is reported with its index
  (`checkOutputs_eq_error_iff`, `Token.validate_eq_error_iff`).
-/

namespace TokenLedger

/-- The parties that sign for commands are those that one of them names. -/
theorem Command.mem_allSignatories {commands : SortedSet Command} {party : Party} :
    party ∈ allSignatories commands ↔ ∃ command ∈ commands, party ∈ command.signatories := by
  rw [allSignatories, SortedSet.mem_union]
  constructor
  · rintro ⟨set, listed, signs⟩
    obtain ⟨command, commanded, rfl⟩ := List.mem_map.mp listed
    exact ⟨command, commanded, signs⟩
  · rintro ⟨command, commanded, signs⟩
    exact ⟨command.signatories, List.mem_map_of_mem commanded, signs⟩

theorem Command.eq_allSignatories_iff {commands : SortedSet Command} {parties : SortedSet Party} :
    parties = allSignatories commands ↔
      ∀ party, party ∈ parties ↔ ∃ command ∈ commands, party ∈ command.signatories := by
  constructor
  · rintro rfl party
    exact mem_allSignatories
  · intro same
    exact SortedSet.ext fun party => (same party).trans mem_allSignatories.symm

/-- What is wrong with a token, when what is asked before is in order. -/
inductive Token.FirstFault (token : Token) : TokenError → Prop
  | unnamed (blank : Text.allBlank token.assetId = true) : FirstFault token .emptyAssetId
  | void (named : Text.allBlank token.assetId = false) (zero : token.quantity = 0) :
      FirstFault token (.nonPositiveQuantity 0)
  | deserted (named : Text.allBlank token.assetId = false) (positive : token.quantity ≠ 0)
      (nobody : token.participants = []) : FirstFault token .noParticipants
  | estranged (named : Text.allBlank token.assetId = false) (positive : token.quantity ≠ 0)
      (someone : token.participants ≠ []) (absent : token.owner ∉ token.participants) :
      FirstFault token (.ownerNotParticipant token.owner)

/-- **A token is refused for its first fault.** -/
theorem Token.validate_eq_error_iff {token : Token} {cause : TokenError} :
    token.validate = .error cause ↔ token.FirstFault cause := by
  constructor
  · intro refused
    unfold validate at refused
    split_ifs at refused with blank zero nobody absent
    · cases refused
      exact .unnamed blank
    · cases refused
      exact .void (Bool.eq_false_iff.mpr blank) zero
    · cases refused
      exact .deserted (Bool.eq_false_iff.mpr blank) zero nobody
    · cases refused
      exact .estranged (Bool.eq_false_iff.mpr blank) zero nobody absent
  · intro fault
    unfold validate
    cases fault with
    | unnamed blank => rw [if_pos blank]
    | void named zero => rw [if_neg (Bool.eq_false_iff.mp named), if_pos zero]
    | deserted named positive nobody =>
      rw [if_neg (Bool.eq_false_iff.mp named), if_neg positive, if_pos nobody]
    | estranged named positive someone absent =>
      rw [if_neg (Bool.eq_false_iff.mp named), if_neg positive, if_neg someone, if_pos absent]

namespace Proposal

/-! ### Inputs -/

/-- An input that repeats one before it, or that another notary governs. -/
def Offends (notary : Party) (before : List Holding) (input : Holding) : Prop :=
  input.ref ∈ before.map Holding.ref ∨ input.notary ≠ notary

/-- How such an input is reported. -/
def offence (notary : Party) (before : List Holding) (input : Holding) : ProposalError :=
  if input.ref ∈ before.map Holding.ref then .duplicateInput input.ref
  else .notaryMismatch input.ref input.notary notary

section Inputs

variable {notary : Party} {earlier : List StateRef} {seen rest inputs : List Holding}
  {input : Holding} {cause : ProposalError}

theorem checkInputs_cons_of_offends (known : ∀ ref, ref ∈ earlier ↔ ref ∈ seen.map Holding.ref)
    (offends : Offends notary seen input) :
    checkInputs notary earlier (input :: rest) = .error (offence notary seen input) := by
  rw [checkInputs, offence]
  by_cases repeated : input.ref ∈ seen.map Holding.ref
  · rw [if_pos ((known _).mpr repeated), if_pos repeated]
  · have elsewhere : input.notary ≠ notary := offends.resolve_left repeated
    rw [if_neg (mt (known _).mp repeated), if_neg repeated, if_pos elsewhere]

theorem checkInputs_cons_of_fine (known : ∀ ref, ref ∈ earlier ↔ ref ∈ seen.map Holding.ref)
    (fine : ¬ Offends notary seen input) :
    checkInputs notary earlier (input :: rest) =
      checkInputs notary (input.ref :: earlier) rest := by
  obtain ⟨new, governed⟩ := not_or.mp fine
  rw [checkInputs, if_neg (mt (known _).mp new), if_neg governed]

/-- The walk over the inputs stops at the first offender, counted from the inputs that it has
seen. -/
theorem checkInputs_eq_error_iff_of_seen
    (known : ∀ ref, ref ∈ earlier ↔ ref ∈ seen.map Holding.ref) :
    checkInputs notary earlier inputs = .error cause ↔
      ∃ index input, FirstAt (fun before => Offends notary (seen ++ before)) inputs index input ∧
        cause = offence notary (seen ++ inputs.take index) input := by
  induction inputs generalizing earlier seen with
  | nil => simp only [checkInputs, reduceCtorEq, not_firstAt_nil, false_and, exists_false]
  | cons input rest ih =>
    have bare : seen ++ [] = seen := List.append_nil seen
    have onward : ∀ before, seen ++ input :: before = (seen ++ [input]) ++ before := by
      intro before
      rw [List.append_assoc, List.singleton_append]
    by_cases offends : Offends notary seen input
    · have now : Offends notary (seen ++ []) input := bare.symm ▸ offends
      rw [checkInputs_cons_of_offends known offends]
      constructor
      · intro refused
        cases refused
        exact ⟨0, input, (firstAt_cons_of_bad now).mpr ⟨rfl, rfl⟩, by rw [List.take_zero, bare]⟩
      · rintro ⟨index, offender, first, reported⟩
        obtain ⟨rfl, rfl⟩ := (firstAt_cons_of_bad now).mp first
        rw [reported, List.take_zero, bare]
    · have fine : ¬ Offends notary (seen ++ []) input := bare.symm ▸ offends
      have extended : ∀ ref, ref ∈ input.ref :: earlier ↔
          ref ∈ (seen ++ [input]).map Holding.ref := by
        intro ref
        rw [List.mem_cons, known, List.map_append, List.mem_append, List.map_singleton,
          List.mem_singleton, or_comm]
      rw [checkInputs_cons_of_fine known offends, ih extended]
      simp only [← onward]
      constructor
      · rintro ⟨later, offender, first, reported⟩
        exact ⟨later + 1, offender, (firstAt_cons_of_fine fine).mpr ⟨later, rfl, first⟩, reported⟩
      · rintro ⟨index, offender, first, reported⟩
        obtain ⟨later, rfl, behind⟩ := (firstAt_cons_of_fine fine).mp first
        exact ⟨later, offender, behind, reported⟩

/-- **Of the inputs the first offender is reported.** -/
theorem checkInputs_eq_error_iff :
    checkInputs notary [] inputs = .error cause ↔
      ∃ index input, FirstAt (Offends notary) inputs index input ∧
        cause = offence notary (inputs.take index) input := by
  have known : ∀ ref, ref ∈ ([] : List StateRef) ↔ ref ∈ ([] : List Holding).map Holding.ref :=
    fun _ => Iff.rfl
  exact checkInputs_eq_error_iff_of_seen known

end Inputs

/-! ### Outputs -/

/-- **Of the outputs the first that is no token is reported**, with its own first fault. -/
theorem checkOutputs_eq_error_iff {start : Nat} {outputs : List Token} {cause : ProposalError} :
    checkOutputs start outputs = .error cause ↔
      ∃ index output fault, FirstAt (fun _ token => token.validate ≠ .ok ()) outputs index output ∧
        output.FirstFault fault ∧ cause = .invalidOutput (start + index) fault := by
  induction outputs generalizing start with
  | nil => simp only [checkOutputs, reduceCtorEq, not_firstAt_nil, false_and, exists_false]
  | cons output rest ih =>
    rw [checkOutputs]
    cases checked : output.validate with
    | error fault =>
      have refused : output.validate ≠ .ok () := by
        intro accepted
        rw [checked] at accepted
        cases accepted
      constructor
      · intro reported
        cases reported
        exact ⟨0, output, fault, (firstAt_cons_of_bad refused).mpr ⟨rfl, rfl⟩,
          Token.validate_eq_error_iff.mp checked, rfl⟩
      · rintro ⟨index, offender, other, first, own, rfl⟩
        obtain ⟨rfl, rfl⟩ := (firstAt_cons_of_bad refused).mp first
        rw [Token.validate_eq_error_iff.mpr own] at checked
        cases checked
        rfl
    | ok =>
      have passed : ¬ output.validate ≠ .ok () := not_not.mpr checked
      rw [ih]
      constructor
      · rintro ⟨later, offender, fault, first, own, rfl⟩
        refine ⟨later + 1, offender, fault, (firstAt_cons_of_fine passed).mpr ⟨later, rfl, first⟩,
          own, ?_⟩
        rw [Nat.add_assoc, Nat.add_comm 1]
      · rintro ⟨index, offender, fault, first, own, rfl⟩
        obtain ⟨later, rfl, behind⟩ := (firstAt_cons_of_fine passed).mp first
        refine ⟨later, offender, fault, behind, own, ?_⟩
        rw [Nat.add_assoc, Nat.add_comm 1]

/-! ### Rules -/

/-- What validation asks about. -/
inductive Rule where
  | produces
  | commanded
  | inputs
  | signatories
  | outputs
  | window
  | identity

/-- The rules in the order in which they are asked about. -/
def Rule.inOrder : List Rule :=
  [.produces, .commanded, .inputs, .signatories, .outputs, .window, .identity]

/-- What a rule reports when a proposal breaks it, whichever others it breaks as well. -/
inductive Breaks (proposal : Proposal) : Rule → ProposalError → Prop
  | noOutputs (nothing : proposal.outputs = []) : Breaks proposal .produces .noOutputs
  | noCommands (nothing : ∀ command, command ∉ proposal.commands) :
      Breaks proposal .commanded .noCommands
  | input {index : Nat} {input : Holding}
      (first : FirstAt (Offends proposal.notary) proposal.inputs index input) :
      Breaks proposal .inputs (offence proposal.notary (proposal.inputs.take index) input)
  | signatories {party : Party} (apart : ¬ (party ∈ proposal.requiredSignatories ↔
        ∃ command ∈ proposal.commands, party ∈ command.signatories)) :
      Breaks proposal .signatories .signatoryMismatch
  | output {index : Nat} {output : Token} {fault : TokenError}
      (first : FirstAt (fun _ token => token.validate ≠ .ok ()) proposal.outputs index output)
      (own : output.FirstFault fault) : Breaks proposal .outputs (.invalidOutput index fault)
  | window (inverted : proposal.timeWindow.stop ≤ proposal.timeWindow.start) :
      Breaks proposal .window
        (TimeWindow.invalid proposal.timeWindow.start proposal.timeWindow.stop)
  | identity (misnamed : proposal.contentId ≠ proposal.id) :
      Breaks proposal .identity (.idMismatch proposal.id proposal.contentId)

/-- The check of one rule. -/
def check (proposal : Proposal) : Rule → Option ProposalError
  | .produces => if proposal.outputs = [] then some .noOutputs else none
  | .commanded => if proposal.commands = .empty then some .noCommands else none
  | .inputs => fault? (checkInputs proposal.notary [] proposal.inputs)
  | .signatories =>
    if proposal.requiredSignatories ≠ Command.allSignatories proposal.commands then
      some .signatoryMismatch
    else none
  | .outputs => fault? (checkOutputs 0 proposal.outputs)
  | .window =>
    if proposal.timeWindow.stop ≤ proposal.timeWindow.start then
      some (TimeWindow.invalid proposal.timeWindow.start proposal.timeWindow.stop)
    else none
  | .identity =>
    if proposal.contentId ≠ proposal.id then some (.idMismatch proposal.id proposal.contentId)
    else none

/-- A check finds a fault exactly if its rule is broken, and reports what the rule does. -/
theorem check_eq_some_iff (proposal : Proposal) (rule : Rule) (cause : ProposalError) :
    proposal.check rule = some cause ↔ proposal.Breaks rule cause := by
  cases rule with
  | produces => exact ite_eq_some_iff .noOutputs fun | .noOutputs nothing => ⟨nothing, rfl⟩
  | commanded =>
    exact ite_eq_some_iff (fun bare => .noCommands (SortedSet.eq_empty_iff.mp bare))
      fun | .noCommands nothing => ⟨SortedSet.eq_empty_iff.mpr nothing, rfl⟩
  | inputs =>
    rw [check, fault?_eq_some_iff, checkInputs_eq_error_iff]
    constructor
    · rintro ⟨index, input, first, rfl⟩
      exact .input first
    · intro broken
      cases broken with
      | input first => exact ⟨_, _, first, rfl⟩
  | signatories =>
    refine ite_eq_some_iff (fun different => ?_) fun broken => ?_
    · obtain ⟨party, apart⟩ := not_forall.mp (mt Command.eq_allSignatories_iff.mpr different)
      exact .signatories apart
    · cases broken with
      | signatories apart =>
        exact ⟨fun same => apart (Command.eq_allSignatories_iff.mp same _), rfl⟩
  | outputs =>
    rw [check, fault?_eq_some_iff, checkOutputs_eq_error_iff]
    simp only [Nat.zero_add]
    constructor
    · rintro ⟨index, output, fault, first, own, rfl⟩
      exact .output first own
    · intro broken
      cases broken with
      | output first own => exact ⟨_, _, _, first, own, rfl⟩
  | window => exact ite_eq_some_iff .window fun | .window inverted => ⟨inverted, rfl⟩
  | identity => exact ite_eq_some_iff .identity fun | .identity misnamed => ⟨misnamed, rfl⟩

/-- Validation makes the checks in their order. -/
theorem fault?_validate (proposal : Proposal) :
    fault? proposal.validate = Rule.inOrder.findSome? proposal.check := by
  rw [validate_eq]
  simp only [Rule.inOrder, List.findSome?_cons, List.findSome?_nil, check]
  by_cases unproductive : proposal.outputs = []
  · simp only [if_pos unproductive, fault?]
  by_cases idle : proposal.commands = .empty
  · simp only [if_neg unproductive, if_pos idle, fault?]
  simp only [if_neg unproductive, if_neg idle]
  cases checkInputs proposal.notary [] proposal.inputs with
  | error cause => rfl
  | ok =>
    by_cases mismatch : proposal.requiredSignatories ≠ Command.allSignatories proposal.commands
    · simp only [if_pos mismatch, fault?]
    simp only [if_neg mismatch]
    cases checkOutputs 0 proposal.outputs with
    | error cause => rfl
    | ok =>
      by_cases inverted : proposal.timeWindow.stop ≤ proposal.timeWindow.start
      · simp only [if_pos inverted, fault?]
      simp only [if_neg inverted]
      by_cases misnamed : proposal.contentId ≠ proposal.id
      · simp only [if_pos misnamed, fault?]
      · simp only [if_neg misnamed, fault?]

/-- **Validation is exact.** A proposal passes if and only if it has an output and a command, its
inputs are pairwise different and all governed by its notary, its required signatories are those
whom some command names, every output is a token, its window ends after it starts and its id is the
hash of its content. Any other proposal, whatever is wrong with it and however much, is refused for
what the first broken rule reports: of its inputs the first that repeats an earlier one or is
governed by another notary, of its outputs the first that is no token with that token's own first
fault. -/
theorem validate_exact (proposal : Proposal) :
    (proposal.validate = .ok () ↔
      proposal.outputs ≠ [] ∧ (∃ command, command ∈ proposal.commands) ∧
      proposal.inputRefs.Nodup ∧
      (∀ input ∈ proposal.inputs, input.notary = proposal.notary) ∧
      (∀ party, party ∈ proposal.requiredSignatories ↔
        ∃ command ∈ proposal.commands, party ∈ command.signatories) ∧
      (∀ output ∈ proposal.outputs, output.validate = .ok ()) ∧
      proposal.timeWindow.start < proposal.timeWindow.stop ∧
      proposal.contentId = proposal.id) ∧
    ∀ cause, proposal.validate = .error cause ↔
      FirstBroken Rule.inOrder proposal.Breaks cause := by
  constructor
  · rw [validate_eq_ok_iff]
    constructor
    · rintro ⟨produces, commanded, distinct, governed, signatories_eq, sound, ordered, identified⟩
      rw [ne_eq, SortedSet.eq_empty_iff, not_forall_not] at commanded
      exact ⟨produces, commanded, distinct, governed,
        Command.eq_allSignatories_iff.mp signatories_eq,
        fun output listed => (Token.validate_eq_ok_iff output).mpr (sound output listed),
        ordered, identified⟩
    · rintro ⟨produces, commanded, distinct, governed, signatories, valid, ordered, identified⟩
      rw [← not_forall_not, ← SortedSet.eq_empty_iff] at commanded
      exact ⟨produces, commanded, distinct, governed,
        Command.eq_allSignatories_iff.mpr signatories,
        fun output listed => (Token.validate_eq_ok_iff output).mp (valid output listed),
        ordered, identified⟩
  · intro cause
    rw [← fault?_eq_some_iff, fault?_validate, findSome?_eq_some_iff (check_eq_some_iff proposal)]

end Proposal

end TokenLedger
