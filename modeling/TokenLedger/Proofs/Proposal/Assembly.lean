import TokenLedger.Proofs.Json.Reading
import TokenLedger.Proofs.Proposal.Canonical
import TokenLedger.Proofs.Proposal.Validity
import TokenLedger.Proposal.Draft
/-!
How a draft comes out of the calls that made it.

A proposal is put together by calls on a draft, in any order. What is left of their order is this
(`collects_of_editAll`, from one lemma for a call and one for two runs after one another):

* of the notaries that were set the last one counts, and of the windows the last one;
* the inputs are listed in the order of their calls, and so are the outputs;
* the commands are those that were added, and it does not matter when or how often. A command is
  given with a list of signatories, of which its members alone count.

So calls that agree in all of this make drafts with the same parts (`Draft.SameParts`), but for the
order and the repetitions in the participants of an output. No check asks about these
(`Token.SameContent.validate_eq`), and they change no byte. `build_of_agree` draws the conclusion
for what is built.
-/

namespace TokenLedger

open Json

/-! ### Drafts with the same parts -/

theorem Token.SameContent.validate_eq {left right : Token} (same : left.SameContent right) :
    left.validate = right.validate := by
  have bare : left.participants = [] ↔ right.participants = [] := by
    rw [List.eq_nil_iff_forall_not_mem, List.eq_nil_iff_forall_not_mem]
    exact forall_congr' fun party => not_congr (same.participants party)
  simp only [Token.validate, same.assetId, same.quantity, bare, same.owner, same.participants]

theorem Proposal.checkOutputs_congr {left right : List Token}
    (same : List.Forall₂ Token.SameContent left right) (index : Nat) :
    checkOutputs index left = checkOutputs index right := by
  induction same generalizing index with
  | nil => rfl
  | cons alike _ ih => rw [checkOutputs, checkOutputs, alike.validate_eq, ih]

namespace Draft

/-- Drafts that differ in how the participants of their outputs are listed only. -/
structure SameParts (left right : Draft) : Prop where
  notary : left.notary = right.notary
  timeWindow : left.timeWindow = right.timeWindow
  inputs : left.inputs = right.inputs
  outputs : List.Forall₂ Token.SameContent left.outputs right.outputs
  commands : left.commands = right.commands

theorem build_eq {draft : Draft} {notary : Party} {window : TimeWindow}
    (notary_eq : draft.notary = some notary) (window_eq : draft.timeWindow = some window) :
    draft.build =
      (draft.assemble notary window).validate.map fun () => draft.assemble notary window := by
  rw [Draft.build, notary_eq, window_eq]

section SameParts

variable {left right : Draft}

theorem SameParts.assemble (same : left.SameParts right) (notary : Party) (window : TimeWindow) :
    (left.assemble notary window).SameContent (right.assemble notary window) where
  notary := rfl
  start := rfl
  stop := rfl
  inputRefs := congrArg (List.map Holding.ref) same.inputs
  outputs := same.outputs
  commands := same.commands
  requiredSignatories := congrArg Command.allSignatories same.commands

/-- The check does not tell the assembled proposals apart: their ids are the hashes of their
contents, whichever these are. -/
theorem SameParts.validate_assemble (same : left.SameParts right) (notary : Party)
    (window : TimeWindow) :
    (left.assemble notary window).validate = (right.assemble notary window).validate := by
  have bare : left.outputs = [] ↔ right.outputs = [] := by
    rw [← List.length_eq_zero_iff, ← List.length_eq_zero_iff, same.outputs.length_eq]
  have outputs := Proposal.checkOutputs_congr same.outputs 0
  rw [Proposal.validate_eq, Proposal.validate_eq, contentId_assemble, contentId_assemble]
  simp only [Draft.assemble, same.inputs, same.commands, bare, outputs, ne_eq, not_true_eq_false,
    if_false]

/-- **Drafts with the same parts build to proposals that nothing tells apart, or break the same
rule.** -/
theorem SameParts.build (same : left.SameParts right) :
    (∃ leftBuilt rightBuilt, left.build = .ok leftBuilt ∧ right.build = .ok rightBuilt ∧
      leftBuilt.SameContent rightBuilt ∧ leftBuilt.id = rightBuilt.id) ∨
      ∃ cause, left.build = .error cause ∧ right.build = .error cause := by
  rcases notary_eq : left.notary with _ | notary
  · exact Or.inr ⟨.missingNotary, by rw [Draft.build, notary_eq],
      by rw [Draft.build, ← same.notary, notary_eq]⟩
  rcases window_eq : left.timeWindow with _ | window
  · exact Or.inr ⟨.missingTimeWindow, by rw [Draft.build, notary_eq, window_eq],
      by rw [Draft.build, ← same.notary, ← same.timeWindow, notary_eq, window_eq]⟩
  rw [build_eq notary_eq window_eq, build_eq (same.notary ▸ notary_eq)
    (same.timeWindow ▸ window_eq), ← same.validate_assemble notary window]
  have content := same.assemble notary window
  cases (left.assemble notary window).validate with
  | error cause => exact Or.inr ⟨cause, rfl, rfl⟩
  | ok =>
    have ids : (left.assemble notary window).id = (right.assemble notary window).id := by
      rw [← contentId_assemble, ← contentId_assemble, Proposal.contentId, Proposal.contentId,
        content.canonicalBytes_eq]
    exact Or.inl ⟨_, _, rfl, rfl, content, ids⟩

end SameParts

/-! ### Calls -/

/-- A call on a draft. A command comes with its signatories in a list; one whose signatories are a
set already comes with the list of that set. -/
inductive Edit where
  | setNotary (notary : Party)
  | setTimeWindow (window : TimeWindow)
  | setTimeWindowBetween (start stop : Instant)
  | addInput (input : Holding)
  | addOutput (output : Token)
  | addCommand (kind : CommandKind) (signatories : List Party)

/-- The draft after a call. Only two instants that bound no window are refused. -/
def edit (draft : Draft) : Edit → Except ProposalError Draft
  | .setNotary notary => .ok (draft.withNotary notary)
  | .setTimeWindow window => .ok (draft.withTimeWindow window)
  | .setTimeWindowBetween start stop => draft.withTimeWindowBetween start stop
  | .addInput input => .ok (draft.addInput input)
  | .addOutput output => .ok (draft.addOutput output)
  | .addCommand kind signatories => .ok (draft.addCommand (.ofList kind signatories))

/-- The draft after one call after the other. A call that is refused leaves no draft to go on
with. -/
def editAll (draft : Draft) (edits : List Edit) : Except ProposalError Draft :=
  edits.foldlM edit draft

namespace Edit

@[simp] def notary? : Edit → Option Party
  | setNotary notary => some notary
  | _ => none

@[simp] def timeWindow? : Edit → Option TimeWindow
  | setTimeWindow window => some window
  | setTimeWindowBetween start stop => some ⟨start, stop⟩
  | _ => none

@[simp] def input? : Edit → Option Holding
  | addInput input => some input
  | _ => none

@[simp] def output? : Edit → Option Token
  | addOutput output => some output
  | _ => none

@[simp] def command? : Edit → Option Command
  | addCommand kind signatories => some (.ofList kind signatories)
  | _ => none

/-- Every command of some calls is among those of others, its signatories in any order and any
number of times. -/
def CommandsAmong (edits others : List Edit) : Prop :=
  ∀ kind signatories, addCommand kind signatories ∈ edits →
    ∃ listed, addCommand kind listed ∈ others ∧ ∀ party, party ∈ signatories ↔ party ∈ listed

/-- Calls that say the same, however they are mixed: the same notary and the same window last, the
same inputs and the same outputs in order, and the same commands. -/
structure Agree (left right : List Edit) : Prop where
  notary : (left.filterMap notary?).getLast? = (right.filterMap notary?).getLast?
  timeWindow : (left.filterMap timeWindow?).getLast? = (right.filterMap timeWindow?).getLast?
  inputs : left.filterMap input? = right.filterMap input?
  outputs : List.Forall₂ Token.SameContent (left.filterMap output?) (right.filterMap output?)
  commands : CommandsAmong left right
  commands_back : CommandsAmong right left

end Edit

/-! ### What the calls leave in a draft -/

/-- The parts after some calls, by the parts before them and the calls. -/
structure Collects (edits : List Edit) (before after : Draft) : Prop where
  notary : after.notary = (edits.filterMap Edit.notary?).getLast?.or before.notary
  timeWindow : after.timeWindow = (edits.filterMap Edit.timeWindow?).getLast?.or before.timeWindow
  inputs : after.inputs = before.inputs ++ edits.filterMap Edit.input?
  outputs : after.outputs = before.outputs ++ edits.filterMap Edit.output?
  mem_commands : ∀ command, command ∈ after.commands ↔
    command ∈ before.commands ∨ command ∈ edits.filterMap Edit.command?

theorem Collects.refl (draft : Draft) : Collects [] draft draft where
  notary := rfl
  timeWindow := rfl
  inputs := (List.append_nil _).symm
  outputs := (List.append_nil _).symm
  mem_commands _ := (or_iff_left List.not_mem_nil).symm

theorem Collects.trans {first second : List Edit} {before between after : Draft}
    (begun : Collects first before between) (continued : Collects second between after) :
    Collects (first ++ second) before after where
  notary := by
    rw [continued.notary, begun.notary, List.filterMap_append, List.getLast?_append,
      Option.or_assoc]
  timeWindow := by
    rw [continued.timeWindow, begun.timeWindow, List.filterMap_append, List.getLast?_append,
      Option.or_assoc]
  inputs := by rw [continued.inputs, begun.inputs, List.filterMap_append, List.append_assoc]
  outputs := by rw [continued.outputs, begun.outputs, List.filterMap_append, List.append_assoc]
  mem_commands command := by
    rw [continued.mem_commands, begun.mem_commands, List.filterMap_append, List.mem_append,
      or_assoc]

/-- A call changes the part that it is about, and no other. -/
theorem collects_of_edit {draft after : Draft} {edit : Edit}
    (made : draft.edit edit = .ok after) : Collects [edit] draft after := by
  cases edit with
  | setNotary notary =>
    cases made
    constructor <;> simp [withNotary]
  | setTimeWindow window =>
    cases made
    constructor <;> simp [withTimeWindow]
  | setTimeWindowBetween start stop =>
    obtain ⟨-, rfl⟩ := withTimeWindowBetween_eq_ok_iff.mp made
    constructor <;> simp [withTimeWindow]
  | addInput input =>
    cases made
    constructor <;> simp [addInput]
  | addOutput output =>
    cases made
    constructor <;> simp [addOutput]
  | addCommand kind signatories =>
    cases made
    constructor <;> simp [addCommand, or_comm]

theorem collects_of_editAll {draft after : Draft} {edits : List Edit}
    (made : draft.editAll edits = .ok after) : Collects edits draft after := by
  induction edits generalizing draft with
  | nil =>
    cases made
    exact .refl _
  | cons edit rest ih =>
    obtain ⟨between, begun, continued⟩ := exists_of_bind_eq_ok made
    exact (collects_of_edit begun).trans (ih continued)

/-! ### Calls that agree -/

/-- Commands given by lists with the same members are the same. -/
theorem mem_filterMap_command? {left right : List Edit} (among : Edit.CommandsAmong left right)
    {command : Command} (found : command ∈ left.filterMap Edit.command?) :
    command ∈ right.filterMap Edit.command? := by
  obtain ⟨edit, called, gives⟩ := List.mem_filterMap.mp found
  cases edit with
  | addCommand kind signatories =>
    obtain ⟨listed, other, members⟩ := among kind signatories called
    have sets : SortedSet.ofList signatories = SortedSet.ofList listed :=
      SortedSet.ofList_congr members
    rw [Edit.command?, Command.ofList, sets] at gives
    exact List.mem_filterMap.mpr ⟨_, other, gives⟩
  | _ => cases gives

theorem Edit.Agree.sameParts {left right : List Edit} (agree : Agree left right)
    {leftDraft rightDraft : Draft} (leftMade : empty.editAll left = .ok leftDraft)
    (rightMade : empty.editAll right = .ok rightDraft) : leftDraft.SameParts rightDraft := by
  have leftParts := collects_of_editAll leftMade
  have rightParts := collects_of_editAll rightMade
  exact {
    notary := by rw [leftParts.notary, rightParts.notary, agree.notary]
    timeWindow := by rw [leftParts.timeWindow, rightParts.timeWindow, agree.timeWindow]
    inputs := by rw [leftParts.inputs, rightParts.inputs, agree.inputs]
    outputs := by
      rw [leftParts.outputs, rightParts.outputs]
      exact agree.outputs
    commands := SortedSet.ext fun command => by
      rw [leftParts.mem_commands, rightParts.mem_commands]
      exact or_congr_right
        ⟨mem_filterMap_command? agree.commands, mem_filterMap_command? agree.commands_back⟩ }

/-- **What is built does not depend on the order of the calls**: if two runs of calls set the same
notary and the same window last, list the same inputs and the same outputs, up to the order and the
repetitions of participants, and add the same commands, in whatever order and however often, then
both build a proposal, and these have the same bytes, the same id and the same required signatories,
or both are refused for the same reason. -/
theorem build_of_agree {left right : List Edit} {leftDraft rightDraft : Draft}
    (leftMade : empty.editAll left = .ok leftDraft)
    (rightMade : empty.editAll right = .ok rightDraft) (agree : Edit.Agree left right) :
    (∃ leftBuilt rightBuilt, leftDraft.build = .ok leftBuilt ∧ rightDraft.build = .ok rightBuilt ∧
      leftBuilt.canonicalBytes = rightBuilt.canonicalBytes ∧ leftBuilt.id = rightBuilt.id ∧
      leftBuilt.requiredSignatories = rightBuilt.requiredSignatories) ∨
      ∃ cause, leftDraft.build = .error cause ∧ rightDraft.build = .error cause := by
  refine (agree.sameParts leftMade rightMade).build.imp_left ?_
  rintro ⟨leftBuilt, rightBuilt, leftOk, rightOk, content, ids⟩
  exact ⟨leftBuilt, rightBuilt, leftOk, rightOk, content.canonicalBytes_eq, ids,
    content.requiredSignatories⟩

/-! The parts of a move with a second command, one after the other; and once more with the commands
first and one of them twice, and with a notary and a window that are replaced later. -/

namespace Reordered

open Proposal.Rewritten (alice bob startingAt)

def held : Holding := ⟨⟨"GOLD", 5, alice, bob, [alice]⟩, bob, ⟨.zero, 0⟩⟩

def gold (participants : List Party) : Token := ⟨"GOLD", 5, bob, bob, participants⟩

def window : TimeWindow := startingAt ⟨0, by decide⟩

def inOrder : List Edit :=
  [.setNotary bob, .setTimeWindow window, .addInput held, .addOutput (gold [alice, bob]),
    .addCommand .create [alice, bob], .addCommand .move [alice]]

def mixed : List Edit :=
  [.addCommand .move [alice, alice], .addCommand .create [bob, alice, bob], .setNotary alice,
    .addOutput (gold [bob, alice, bob]), .addCommand .move [alice],
    .setTimeWindow (startingAt ⟨7, by decide⟩), .setNotary bob, .addInput held,
    .setTimeWindowBetween window.start window.stop]

def drafted (participants : List Party) : Draft where
  notary := some bob
  timeWindow := some window
  inputs := [held]
  outputs := [gold participants]
  commands := (SortedSet.empty.insert (.ofList .create [alice, bob])).insert (.ofList .move [alice])

def assembled (participants : List Party) : Proposal :=
  (drafted participants).assemble bob window

theorem build_drafted {participants : List Party}
    (sound : Proposal.checkOutputs 0 [gold participants] = .ok ()) :
    (drafted participants).build = .ok (assembled participants) := by
  have commands : (drafted []).commands ≠ .empty := by decide
  have consumes : Proposal.checkInputs bob [] [held] = .ok () := by decide
  have accepted : (assembled participants).validate = .ok () :=
    validate_assemble (List.cons_ne_nil _ _) commands consumes sound (by decide)
  rw [build_eq rfl rfl]
  change (assembled participants).validate.map _ = _
  rw [accepted]
  rfl

end Reordered

open Proposal.Rewritten Reordered in
theorem build_of_agree_reordered :
    empty.editAll inOrder = .ok (drafted [alice, bob]) ∧
      empty.editAll mixed = .ok (drafted [bob, alice, bob]) ∧ Edit.Agree inOrder mixed ∧
      (drafted [alice, bob]).build = .ok (assembled [alice, bob]) ∧
      (drafted [bob, alice, bob]).build = .ok (assembled [bob, alice, bob]) ∧
      (assembled [alice, bob]).canonicalBytes = (assembled [bob, alice, bob]).canonicalBytes ∧
      (assembled [alice, bob]).id = (assembled [bob, alice, bob]).id ∧
      (assembled [alice, bob]).requiredSignatories =
        (assembled [bob, alice, bob]).requiredSignatories := by
  have leftMade : empty.editAll inOrder = .ok (drafted [alice, bob]) := by decide
  have rightMade : empty.editAll mixed = .ok (drafted [bob, alice, bob]) := by decide
  have agree : Edit.Agree inOrder mixed := {
    notary := rfl
    timeWindow := rfl
    inputs := rfl
    outputs := .cons ⟨rfl, rfl, rfl, rfl, mem_reordered⟩ .nil
    commands := by
      intro kind signatories called
      simp only [inOrder, List.mem_cons, List.not_mem_nil, reduceCtorEq, false_or, or_false,
        Edit.addCommand.injEq] at called
      rcases called with ⟨rfl, rfl⟩ | ⟨rfl, rfl⟩
      · exact ⟨[bob, alice, bob], by simp [mixed], mem_reordered⟩
      · exact ⟨[alice], by simp [mixed], fun _ => Iff.rfl⟩
    commands_back := by
      intro kind signatories called
      simp only [mixed, List.mem_cons, List.not_mem_nil, reduceCtorEq, false_or, or_false,
        Edit.addCommand.injEq] at called
      rcases called with ⟨rfl, rfl⟩ | ⟨rfl, rfl⟩ | ⟨rfl, rfl⟩
      · exact ⟨[alice], by simp [inOrder], by simp⟩
      · exact ⟨[alice, bob], by simp [inOrder], fun party => (mem_reordered party).symm⟩
      · exact ⟨[alice], by simp [inOrder], fun _ => Iff.rfl⟩ }
  refine ⟨leftMade, rightMade, agree, ?_⟩
  have leftBuilt : (drafted [alice, bob]).build = .ok (assembled [alice, bob]) :=
    build_drafted (by decide)
  have rightBuilt : (drafted [bob, alice, bob]).build = .ok (assembled [bob, alice, bob]) :=
    build_drafted (by decide)
  rcases build_of_agree leftMade rightMade agree with
    ⟨left, right, leftOk, rightOk, same⟩ | ⟨cause, refused, -⟩
  · cases leftBuilt.symm.trans leftOk
    cases rightBuilt.symm.trans rightOk
    exact ⟨leftBuilt, rightBuilt, same⟩
  · cases leftBuilt.symm.trans refused

end Draft

end TokenLedger
