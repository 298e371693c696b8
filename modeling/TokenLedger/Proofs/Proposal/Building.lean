import TokenLedger.Proofs.Proposal.Assembly
import TokenLedger.Proofs.Proposal.FirstFault
/-!
What is built from calls.

A proposal is described by calls on a draft. Of the rules that a proposal can break, the calls can
break those of `Part.inOrder` only (`fault?_build`):

* the required signatories are taken from the commands and the id is hashed from the content, so
  that neither can be wrong;
* a window and a token come into being with their own checks, so that those that are handed over
  are good ones.

`build_exact` says what is built and what is reported, for all calls: by the notary and the window
that were set last, by the inputs and the outputs in the order of their calls, and by the commands
that were added.
-/

namespace TokenLedger

open Json (exists_of_map_eq_ok)

/-- An offending input is reported as a repetition or for its notary. -/
theorem Proposal.offence_cases (notary : Party) (before : List Holding) (input : Holding) :
    offence notary before input = .duplicateInput input.ref ∨
      offence notary before input = .notaryMismatch input.ref input.notary notary := by
  unfold offence
  split_ifs
  · exact Or.inl rfl
  · exact Or.inr rfl

namespace Draft

/-! ### What calls say -/

namespace Edit

/-- The notary that was set last. -/
def lastNotary (edits : List Edit) : Option Party := (edits.filterMap notary?).getLast?

/-- The window that was set last. -/
def lastTimeWindow (edits : List Edit) : Option TimeWindow := (edits.filterMap timeWindow?).getLast?

/-- What the calls have to say, and to say well, for a proposal. -/
inductive Part where
  | notary
  | timeWindow
  | outputs
  | commands
  | inputs

/-- The parts in the order in which they are asked for. -/
def Part.inOrder : List Part := [.notary, .timeWindow, .outputs, .commands, .inputs]

/-- What is reported about a part that is not as it should be, whichever others are not as well. -/
inductive Lacks (edits : List Edit) : Part → ProposalError → Prop
  | notary (unset : lastNotary edits = none) : Lacks edits .notary .missingNotary
  | timeWindow (unset : lastTimeWindow edits = none) : Lacks edits .timeWindow .missingTimeWindow
  | outputs (nothing : edits.filterMap output? = []) : Lacks edits .outputs .noOutputs
  | commands (nothing : edits.filterMap command? = []) : Lacks edits .commands .noCommands
  | inputs {notary : Party} {index : Nat} {input : Holding} (last : lastNotary edits = some notary)
      (first : FirstAt (Proposal.Offends notary) (edits.filterMap input?) index input) :
      Lacks edits .inputs
        (Proposal.offence notary ((edits.filterMap input?).take index) input)

/-- The proposal that calls describe. -/
structure Describes (edits : List Edit) (proposal : Proposal) : Prop where
  notary : lastNotary edits = some proposal.notary
  timeWindow : lastTimeWindow edits = some proposal.timeWindow
  inputs : proposal.inputs = edits.filterMap input?
  outputs : proposal.outputs = edits.filterMap output?
  mem_commands : ∀ command, command ∈ proposal.commands ↔ command ∈ edits.filterMap command?
  mem_signatories : ∀ party, party ∈ proposal.requiredSignatories ↔
    ∃ kind signatories, addCommand kind signatories ∈ edits ∧ party ∈ signatories
  id_eq : proposal.id = .ofCanonicalBytes proposal.canonicalBytes

theorem mem_filterMap_command?_iff {edits : List Edit} {command : Command} :
    command ∈ edits.filterMap command? ↔
      ∃ kind signatories, addCommand kind signatories ∈ edits ∧
        Command.ofList kind signatories = command := by
  rw [List.mem_filterMap]
  constructor
  · rintro ⟨edit, called, gives⟩
    cases edit with
    | addCommand kind signatories => exact ⟨kind, signatories, called, Option.some.inj gives⟩
    | _ => cases gives
  · rintro ⟨kind, signatories, called, rfl⟩
    exact ⟨_, called, rfl⟩

end Edit

open Edit

/-! ### Calls that give a draft -/

/-- Calls are taken if every window that they set ends after it starts. -/
theorem exists_editAll {edits : List Edit}
    (ordered : ∀ window ∈ edits.filterMap timeWindow?, window.start < window.stop)
    (draft : Draft) : ∃ after, draft.editAll edits = .ok after := by
  induction edits generalizing draft with
  | nil => exact ⟨draft, rfl⟩
  | cons edit rest ih =>
    obtain ⟨between, made⟩ : ∃ between, draft.edit edit = .ok between := by
      cases edit with
      | setTimeWindowBetween start stop =>
        exact ⟨_, withTimeWindowBetween_eq_ok_iff.mpr
          ⟨ordered ⟨start, stop⟩ List.mem_cons_self, rfl⟩⟩
      | _ => exact ⟨_, rfl⟩
    have later : ∀ window ∈ rest.filterMap timeWindow?, window.start < window.stop := by
      intro window set
      obtain ⟨call, called, gives⟩ := List.mem_filterMap.mp set
      exact ordered window (List.mem_filterMap.mpr ⟨call, List.mem_cons_of_mem _ called, gives⟩)
    obtain ⟨after, continued⟩ := ih later between
    refine ⟨after, ?_⟩
    show (draft.edit edit >>= fun next => next.editAll rest) = .ok after
    rw [made]
    exact continued

section Collected

variable {edits : List Edit} {draft : Draft} {notary : Party} {window : TimeWindow}

theorem Collects.notary_eq (parts : Collects edits empty draft) :
    draft.notary = lastNotary edits := parts.notary.trans Option.or_none

theorem Collects.timeWindow_eq (parts : Collects edits empty draft) :
    draft.timeWindow = lastTimeWindow edits := parts.timeWindow.trans Option.or_none

theorem Collects.mem_commands_iff (parts : Collects edits empty draft) {command : Command} :
    command ∈ draft.commands ↔ command ∈ edits.filterMap command? :=
  (parts.mem_commands command).trans (or_iff_right (SortedSet.not_mem_empty command))

theorem Collects.commands_eq_empty_iff (parts : Collects edits empty draft) :
    draft.commands = .empty ↔ edits.filterMap command? = [] := by
  rw [SortedSet.eq_empty_iff, List.eq_nil_iff_forall_not_mem]
  exact forall_congr' fun command => not_congr parts.mem_commands_iff

/-- **The proposal that is assembled is the one that the calls describe.** -/
theorem Collects.describes (parts : Collects edits empty draft)
    (notary_eq : draft.notary = some notary) (window_eq : draft.timeWindow = some window) :
    Describes edits (draft.assemble notary window) where
  notary := parts.notary_eq ▸ notary_eq
  timeWindow := parts.timeWindow_eq ▸ window_eq
  inputs := parts.inputs
  outputs := parts.outputs
  mem_commands _ := parts.mem_commands_iff
  mem_signatories party := by
    show party ∈ Command.allSignatories draft.commands ↔ _
    rw [Command.mem_allSignatories]
    simp only [parts.mem_commands_iff, mem_filterMap_command?_iff]
    constructor
    · rintro ⟨_, ⟨kind, signatories, called, rfl⟩, signs⟩
      exact ⟨kind, signatories, called, SortedSet.mem_ofList.mp signs⟩
    · rintro ⟨kind, signatories, called, signs⟩
      exact ⟨_, ⟨kind, signatories, called, rfl⟩, SortedSet.mem_ofList.mpr signs⟩
  id_eq := rfl

/-! ### What can go wrong -/

/-- The check of one part. -/
def check (draft : Draft) : Part → Option ProposalError
  | .notary => if draft.notary = none then some .missingNotary else none
  | .timeWindow => if draft.timeWindow = none then some .missingTimeWindow else none
  | .outputs => if draft.outputs = [] then some .noOutputs else none
  | .commands => if draft.commands = .empty then some .noCommands else none
  | .inputs =>
    draft.notary.bind fun notary => fault? (Proposal.checkInputs notary [] draft.inputs)

/-- The check of a part finds fault exactly if the calls got it wrong. -/
theorem Collects.check_eq_some_iff (parts : Collects edits empty draft) (part : Part)
    (cause : ProposalError) : draft.check part = some cause ↔ Lacks edits part cause := by
  have inputs_eq : draft.inputs = edits.filterMap input? := parts.inputs
  have outputs_eq : draft.outputs = edits.filterMap output? := parts.outputs
  cases part with
  | notary =>
    rw [check, parts.notary_eq]
    exact ite_eq_some_iff .notary fun | .notary unset => ⟨unset, rfl⟩
  | timeWindow =>
    rw [check, parts.timeWindow_eq]
    exact ite_eq_some_iff .timeWindow fun | .timeWindow unset => ⟨unset, rfl⟩
  | outputs =>
    rw [check, outputs_eq]
    exact ite_eq_some_iff .outputs fun | .outputs nothing => ⟨nothing, rfl⟩
  | commands =>
    exact ite_eq_some_iff (fun bare => .commands (parts.commands_eq_empty_iff.mp bare))
      fun | .commands nothing => ⟨parts.commands_eq_empty_iff.mpr nothing, rfl⟩
  | inputs =>
    rw [check, parts.notary_eq, inputs_eq, Option.bind_eq_some_iff]
    simp only [fault?_eq_some_iff, Proposal.checkInputs_eq_error_iff]
    constructor
    · rintro ⟨notary, last, index, input, first, rfl⟩
      exact .inputs last first
    · intro lacks
      cases lacks with
      | inputs last first => exact ⟨_, last, _, _, first, rfl⟩

/-- Of the rules of a proposal three are left. The signatories and the id are made to fit, and
outputs and window were good before. -/
theorem validate_assemble_eq (passed : Proposal.checkOutputs 0 draft.outputs = .ok ())
    (bounds : window.start < window.stop) :
    (draft.assemble notary window).validate =
      if draft.outputs = [] then .error .noOutputs
      else if draft.commands = .empty then .error .noCommands
      else Proposal.checkInputs notary [] draft.inputs := by
  have ordered : ¬ window.stop ≤ window.start := Instant.not_le.mpr bounds
  rw [Proposal.validate_eq, contentId_assemble]
  simp only [assemble, passed, ne_eq, not_true_eq_false, if_false, if_neg ordered]
  split_ifs
  · rfl
  · rfl
  · cases Proposal.checkInputs notary [] draft.inputs with
    | error cause => rfl
    | ok => rfl

/-- **Building asks for the parts in their order.** -/
theorem fault?_build (passed : Proposal.checkOutputs 0 draft.outputs = .ok ())
    (bounds : ∀ window, draft.timeWindow = some window → window.start < window.stop) :
    fault? draft.build = Part.inOrder.findSome? draft.check := by
  simp only [Part.inOrder, List.findSome?_cons, List.findSome?_nil, check]
  cases notary_eq : draft.notary with
  | none =>
    rw [build, notary_eq]
    rfl
  | some notary =>
    cases window_eq : draft.timeWindow with
    | none =>
      rw [build, notary_eq, window_eq]
      rfl
    | some window =>
      rw [build_eq notary_eq window_eq, validate_assemble_eq passed (bounds window window_eq)]
      by_cases unproductive : draft.outputs = []
      · rw [if_pos unproductive, if_pos unproductive]
        rfl
      by_cases idle : draft.commands = .empty
      · rw [if_neg unproductive, if_neg unproductive, if_pos idle, if_pos idle]
        rfl
      rw [if_neg unproductive, if_neg unproductive, if_neg idle, if_neg idle]
      simp only [Option.bind_some]
      cases Proposal.checkInputs notary [] draft.inputs with
      | error cause => rfl
      | ok => rfl

end Collected

/-- **What calls build, exactly.** Let the windows that are set end after they start and the outputs
that are added be tokens. Then the calls give a draft, and building it reports a notary, then a
window that was never set, then that there is no output, then that there is no command, then the
first of the inputs that repeats an earlier one or is not governed by the notary that was set last;
and nothing else, whatever the calls are. If nothing of this is wrong it gives the proposal that the
calls describe. -/
theorem build_exact {edits : List Edit}
    (ordered : ∀ window ∈ edits.filterMap timeWindow?, window.start < window.stop)
    (valid : ∀ output ∈ edits.filterMap output?, output.validate = .ok ()) :
    ∃ draft, empty.editAll edits = .ok draft ∧
      (∀ cause, draft.build = .error cause ↔ FirstBroken Part.inOrder (Lacks edits) cause) ∧
      ((∀ part cause, ¬ Lacks edits part cause) →
        ∃ proposal, draft.build = .ok proposal ∧ Describes edits proposal) ∧
      ∀ cause, draft.build = .error cause →
        cause ≠ .signatoryMismatch ∧ (∀ index fault, cause ≠ .invalidOutput index fault) ∧
        (∀ start stop, cause ≠ .invalidWindow start stop) ∧
        (∀ claimed actual, cause ≠ .idMismatch claimed actual) ∧
        ∀ detail, cause ≠ .encoding detail := by
  obtain ⟨draft, made⟩ := exists_editAll ordered empty
  have parts := collects_of_editAll made
  have passed : Proposal.checkOutputs 0 draft.outputs = .ok () := by
    rw [Proposal.checkOutputs_eq_ok_iff, parts.outputs]
    exact fun output added => (Token.validate_eq_ok_iff output).mp (valid output added)
  have bounds : ∀ window, draft.timeWindow = some window → window.start < window.stop := by
    intro window set
    rw [parts.timeWindow_eq] at set
    exact ordered window (List.mem_of_getLast? set)
  have errors : ∀ cause, draft.build = .error cause ↔
      FirstBroken Part.inOrder (Lacks edits) cause := by
    intro cause
    rw [← fault?_eq_some_iff, fault?_build passed bounds,
      findSome?_eq_some_iff parts.check_eq_some_iff]
  refine ⟨draft, made, errors, fun whole => ?_, fun cause refused => ?_⟩
  · cases built : draft.build with
    | error cause =>
      obtain ⟨_, part, -, lacks⟩ := (errors cause).mp built
      exact absurd lacks (whole part cause)
    | ok proposal =>
      unfold build at built
      split at built
      · cases built
      · cases built
      · rename_i notary window notary_eq window_eq
        obtain ⟨_, -, rfl⟩ := exists_of_map_eq_ok built
        exact ⟨_, rfl, parts.describes notary_eq window_eq⟩
  · obtain ⟨_, part, -, lacks⟩ := (errors cause).mp refused
    cases lacks with
    | notary | timeWindow | outputs | commands =>
      exact ⟨nofun, nofun, nofun, nofun, nofun⟩
    | inputs last first =>
      rename_i notary index input
      rcases Proposal.offence_cases notary ((edits.filterMap input?).take index) input with
        repeated | elsewhere
      · rw [repeated]
        exact ⟨nofun, nofun, nofun, nofun, nofun⟩
      · rw [elsewhere]
        exact ⟨nofun, nofun, nofun, nofun, nofun⟩

/-! The mixed calls of a move, with a notary and a window that are replaced later; and the same
calls with the input once more and another notary at the end, for whom the first input is the first
offender already. -/

namespace Reordered

open Proposal.Rewritten (alice bob)

def misplaced : List Edit := mixed ++ [.addInput held, .setNotary alice]

def misdrafted : Draft := ((drafted [bob, alice, bob]).addInput held).withNotary alice

theorem not_lacks_mixed (part : Part) (cause : ProposalError) : ¬ Lacks mixed part cause := by
  intro lacks
  cases lacks with
  | notary unset => cases unset
  | timeWindow unset => cases unset
  | outputs nothing => cases nothing
  | commands nothing => cases nothing
  | inputs last first =>
    have same : lastNotary mixed = some bob := rfl
    have governed : Proposal.checkInputs bob [] (mixed.filterMap input?) = .ok () := by decide
    rw [same] at last
    cases last
    rw [Proposal.checkInputs_eq_error_iff.mpr ⟨_, _, first, rfl⟩] at governed
    cases governed

theorem build_misdrafted :
    misdrafted.build = .error (.notaryMismatch held.ref bob alice) := rfl

end Reordered

open Proposal.Rewritten Reordered in
theorem build_exact_mixed :
    (∀ calls ∈ [mixed, misplaced],
      (∀ window ∈ calls.filterMap timeWindow?, window.start < window.stop) ∧
      ∀ output ∈ calls.filterMap output?, output.validate = .ok ()) ∧
    (drafted [bob, alice, bob]).build = .ok (assembled [bob, alice, bob]) ∧
    Describes mixed (assembled [bob, alice, bob]) ∧
    misdrafted.build = .error (.notaryMismatch held.ref bob alice) ∧
    FirstBroken Part.inOrder (Lacks misplaced) (.notaryMismatch held.ref bob alice) := by
  have good : ∀ calls ∈ [mixed, misplaced],
      (∀ window ∈ calls.filterMap timeWindow?, window.start < window.stop) ∧
      ∀ output ∈ calls.filterMap output?, output.validate = .ok () := by decide
  obtain ⟨⟨ordered, valid⟩, ordered_again, valid_again⟩ : _ ∧ _ :=
    ⟨good mixed List.mem_cons_self, good misplaced (List.mem_cons_of_mem _ List.mem_cons_self)⟩
  have mixed_made : empty.editAll mixed = .ok (drafted [bob, alice, bob]) := by decide
  have misplaced_made : empty.editAll misplaced = .ok misdrafted := by decide
  have mixed_built : (drafted [bob, alice, bob]).build = .ok (assembled [bob, alice, bob]) :=
    build_drafted (by decide)
  refine ⟨good, mixed_built, ?_, build_misdrafted, ?_⟩
  · obtain ⟨draft, made, -, builds, -⟩ := build_exact ordered valid
    cases mixed_made.symm.trans made
    obtain ⟨proposal, built, describes⟩ := builds not_lacks_mixed
    cases mixed_built.symm.trans built
    exact describes
  · obtain ⟨draft, made, errors, -⟩ := build_exact ordered_again valid_again
    cases misplaced_made.symm.trans made
    exact (errors _).mp build_misdrafted

end Draft

end TokenLedger
