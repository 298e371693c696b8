import TokenLedger.Proofs.Json.Reading
import TokenLedger.Proofs.Notary.Step
import TokenLedger.Proofs.Proposal.Validity
import TokenLedger.Proposal.Draft
import TokenLedger.Wire.Signing
/-!
What can be obtained from the ledger, and that all of it is sound.

Tokens, holdings, windows, drafts, proposals and signed transactions are made from one another, taken
apart again, and read from texts. `Obtainable` has one constructor for each of these ways. None of
them skips a check that another one makes: what is obtained is sound (`Obtainable.sound`), by
induction on how it was.

* A draft keeps whatever it is given, so its parts are as sound as what they were taken from.
* A proposal is built or read only if it validates. Validation looks at the outputs and not at the
  tokens of the inputs; these are sound because the holdings that they came in are.
* A token in other hands is not checked again, and need not be (`Token.Sound.withOwner`).

`obtainable_acceptable` says it for each kind of value, and that a notary never refuses to rule on
an obtainable transaction because of its proposal.
-/

namespace TokenLedger

open Json

/-! ### Sound drafts and proposals -/

/-- A proposal that is acceptable and consumes tokens that are sound. -/
structure Proposal.Sound (proposal : Proposal) : Prop where
  acceptable : proposal.Acceptable
  inputs : ∀ input ∈ proposal.inputs, input.token.Sound

/-- A draft with an ordered window and sound tokens. -/
structure Draft.Sound (draft : Draft) : Prop where
  ordered : ∀ window, draft.timeWindow = some window → window.start < window.stop
  inputs : ∀ input ∈ draft.inputs, input.token.Sound
  outputs : ∀ output ∈ draft.outputs, output.Sound

namespace Draft

variable {draft : Draft}

theorem sound_empty : empty.Sound where
  ordered := by
    intro window set
    cases set
  inputs := List.forall_mem_nil _
  outputs := List.forall_mem_nil _

theorem Sound.withNotary (sound : draft.Sound) (notary : Party) : (draft.withNotary notary).Sound :=
  ⟨sound.ordered, sound.inputs, sound.outputs⟩

theorem Sound.withTimeWindow (sound : draft.Sound) {window : TimeWindow}
    (ordered : window.start < window.stop) : (draft.withTimeWindow window).Sound where
  ordered := by
    intro last set
    cases set
    exact ordered
  inputs := sound.inputs
  outputs := sound.outputs

theorem Sound.withTimeWindowBetween (sound : draft.Sound) {start stop : Instant} {next : Draft}
    (set : draft.withTimeWindowBetween start stop = .ok next) : next.Sound := by
  obtain ⟨ordered, rfl⟩ := withTimeWindowBetween_eq_ok_iff.mp set
  exact sound.withTimeWindow ordered

theorem Sound.addInput (sound : draft.Sound) {input : Holding} (input_sound : input.token.Sound) :
    (draft.addInput input).Sound where
  ordered := sound.ordered
  inputs := List.forall_mem_append.mpr ⟨sound.inputs, List.forall_mem_singleton.mpr input_sound⟩
  outputs := sound.outputs

theorem Sound.addOutput (sound : draft.Sound) {output : Token} (output_sound : output.Sound) :
    (draft.addOutput output).Sound where
  ordered := sound.ordered
  inputs := sound.inputs
  outputs := List.forall_mem_append.mpr ⟨sound.outputs, List.forall_mem_singleton.mpr output_sound⟩

theorem Sound.addCommand (sound : draft.Sound) (command : Command) :
    (draft.addCommand command).Sound :=
  ⟨sound.ordered, sound.inputs, sound.outputs⟩

/-- What a sound draft builds is sound. -/
theorem Sound.build (sound : draft.Sound) {proposal : Proposal}
    (built : draft.build = .ok proposal) : proposal.Sound := by
  unfold Draft.build at built
  split at built
  · cases built
  · cases built
  · obtain ⟨_, valid, same⟩ := exists_of_map_eq_ok built
    rw [← same]
    exact ⟨Proposal.validate_eq_ok_iff.mp valid, sound.inputs⟩

end Draft

theorem Token.sound_of_create {assetId : String} {asked : Int64} {owner issuer : Party}
    {participants : List Party} {token : Token}
    (made : Token.create assetId asked owner issuer participants = .ok token) : token.Sound := by
  unfold Token.create at made
  dsimp only at made
  split at made
  · rename_i valid
    cases made
    exact (Token.validate_eq_ok_iff _).mp valid
  · cases made
  · cases made

namespace Proposal

theorem sound_of_create {notary : Party} {output : Token} {start stop : Instant}
    {proposal : Proposal} (output_sound : output.Sound)
    (made : Proposal.create notary output start stop = .ok proposal) : proposal.Sound := by
  obtain ⟨draft, set, built⟩ := exists_of_bind_eq_ok made
  have begun := (Draft.sound_empty.withNotary notary).withTimeWindowBetween set
  exact ((begun.addOutput output_sound).addCommand _).build built

theorem sound_of_move {notary newOwner : Party} {input : Holding} {start stop : Instant}
    {proposal : Proposal} (input_sound : input.token.Sound)
    (made : Proposal.move notary input newOwner start stop = .ok proposal) : proposal.Sound := by
  obtain ⟨draft, set, built⟩ := exists_of_bind_eq_ok made
  have begun := (Draft.sound_empty.withNotary notary).withTimeWindowBetween set
  have moved := input_sound.withOwner newOwner
  exact (((begun.addInput input_sound).addOutput moved).addCommand _).build built

/-- An output of a sound proposal is a holding of a sound token. -/
theorem Sound.output? {proposal : Proposal} (sound : proposal.Sound) {index : UInt32}
    {holding : Holding} (found : proposal.output? index = some holding) : holding.token.Sound := by
  obtain ⟨token, listed, same⟩ := Option.map_eq_some_iff.mp found
  rw [← same]
  exact sound.acceptable.sound token (List.mem_of_getElem? listed)

end Proposal

/-! ### What is read -/

namespace Wire

theorem sound_of_reads_token {token : Token} (reads : Wire.token.Reads token) : token.Sound := by
  obtain ⟨before, -, passed⟩ := reads.of_checked
  obtain ⟨_, valid, same⟩ := exists_of_map_eq_ok passed
  rw [← same]
  exact (Token.validate_eq_ok_iff before).mp (eq_ok_of_mapError_eq_ok valid)

theorem sound_of_reads_holding {holding : Holding} (reads : Wire.holding.Reads holding) :
    holding.token.Sound := by
  obtain ⟨parts, parts_read, same⟩ := reads.of_convert
  obtain ⟨token_read | fallback, -⟩ := parts_read.of_record
  · rw [← same]
    exact sound_of_reads_token token_read
  · cases fallback

theorem ordered_of_reads_timeWindow {window : TimeWindow} (reads : Wire.timeWindow.Reads window) :
    window.start < window.stop := by
  obtain ⟨bounds, -, passed⟩ := reads.of_checked
  obtain ⟨ordered, same⟩ := TimeWindow.between_eq_ok_iff.mp (eq_ok_of_mapError_eq_ok passed)
  rw [same]
  exact ordered

theorem sound_of_reads_proposal {proposal : Proposal} (reads : Wire.proposal.Reads proposal) :
    proposal.Sound := by
  obtain ⟨before, before_read, passed⟩ := reads.of_checked
  obtain ⟨_, valid, same⟩ := exists_of_map_eq_ok passed
  have accepted := Proposal.validate_eq_ok_iff.mp (eq_ok_of_mapError_eq_ok valid)
  obtain ⟨parts, parts_read, made⟩ := before_read.of_convert
  obtain ⟨-, -, -, inputs_read | fallback, -⟩ := parts_read.of_record
  · rw [← same]
    refine ⟨accepted, fun input consumed => ?_⟩
    rw [← made] at consumed
    exact sound_of_reads_holding (inputs_read.of_list input consumed)
  · cases fallback

/-- The proposal of a transaction that was read is one that is read by itself. -/
theorem proposal_of_reads_signed {signed : SignedTransaction}
    (reads : Wire.unsignedForm.Reads signed) : Wire.proposal.Reads signed.proposal := by
  obtain ⟨parts, parts_read, same⟩ := reads.of_convert
  obtain ⟨proposal_read | fallback, -⟩ := parts_read.of_record
  · rw [← same]
    exact proposal_read
  · cases fallback

theorem sound_of_reads_signed {signed : SignedTransaction}
    (reads : Wire.unsignedForm.Reads signed) : signed.proposal.Sound :=
  sound_of_reads_proposal (proposal_of_reads_signed reads)

/-- No signatures can be read. -/
theorem signatures_of_reads_signed {signed : SignedTransaction}
    (reads : Wire.unsignedForm.Reads signed) : signed.signatures = .empty := by
  obtain ⟨parts, parts_read, same⟩ := reads.of_convert
  obtain ⟨-, ⟨outline, read⟩ | fallback, -⟩ := parts_read.of_record
  · rw [← same]
    change readSignatures outline = _ at read
    unfold readSignatures at read
    split at read
    · obtain ⟨_, -, done⟩ := exists_of_bind_eq_ok read
      exact (Except.ok.inj done).symm
    · obtain ⟨_, -, refused⟩ := exists_of_bind_eq_ok read
      cases refused
    · cases read
  · cases fallback

end Wire

variable [SignatureScheme]

/-! ### Ways of obtaining a value -/

/-- A value that the ledger hands out. -/
inductive Artifact where
  | token (token : Token)
  | holding (holding : Holding)
  | window (window : TimeWindow)
  | draft (draft : Draft)
  | proposal (proposal : Proposal)
  | signed (signed : SignedTransaction)

/-- How values are made, taken apart and read. Names, keys, parties, references, commands and
signatures are free; a holding may be put together from any token that was obtained. -/
inductive Obtainable : Artifact → Prop
  -- tokens
  | newToken {assetId : String} {asked : Int64} {owner issuer : Party} {participants : List Party}
      {token : Token} (made : Token.create assetId asked owner issuer participants = .ok token) :
      Obtainable (.token token)
  | withOwner {token : Token} (source : Obtainable (.token token)) (newOwner : Party) :
      Obtainable (.token (token.withOwner newOwner))
  | tokenOf {holding : Holding} (source : Obtainable (.holding holding)) :
      Obtainable (.token holding.token)
  | outputOf {proposal : Proposal} {token : Token} (source : Obtainable (.proposal proposal))
      (listed : token ∈ proposal.outputs) : Obtainable (.token token)
  | readToken {text : String} {token : Token}
      (decoded : decode Wire.token.read text = .ok token) : Obtainable (.token token)
  -- holdings
  | hold {token : Token} (source : Obtainable (.token token)) (notary : Party) (ref : StateRef) :
      Obtainable (.holding ⟨token, notary, ref⟩)
  | output {proposal : Proposal} {index : UInt32} {holding : Holding}
      (source : Obtainable (.proposal proposal)) (found : proposal.output? index = some holding) :
      Obtainable (.holding holding)
  | inputOf {proposal : Proposal} {holding : Holding} (source : Obtainable (.proposal proposal))
      (listed : holding ∈ proposal.inputs) : Obtainable (.holding holding)
  | readHolding {text : String} {holding : Holding}
      (decoded : decode Wire.holding.read text = .ok holding) : Obtainable (.holding holding)
  -- windows
  | between {start stop : Instant} {window : TimeWindow}
      (bounded : TimeWindow.between start stop = .ok window) : Obtainable (.window window)
  | windowOf {proposal : Proposal} (source : Obtainable (.proposal proposal)) :
      Obtainable (.window proposal.timeWindow)
  | readWindow {text : String} {window : TimeWindow}
      (decoded : decode Wire.timeWindow.read text = .ok window) : Obtainable (.window window)
  -- drafts
  | newDraft : Obtainable (.draft .empty)
  | withNotary {draft : Draft} (source : Obtainable (.draft draft)) (notary : Party) :
      Obtainable (.draft (draft.withNotary notary))
  | withTimeWindow {draft : Draft} {window : TimeWindow} (source : Obtainable (.draft draft))
      (added : Obtainable (.window window)) : Obtainable (.draft (draft.withTimeWindow window))
  | withTimeWindowBetween {draft next : Draft} {start stop : Instant}
      (source : Obtainable (.draft draft))
      (set : draft.withTimeWindowBetween start stop = .ok next) : Obtainable (.draft next)
  | addInput {draft : Draft} {input : Holding} (source : Obtainable (.draft draft))
      (added : Obtainable (.holding input)) : Obtainable (.draft (draft.addInput input))
  | addOutput {draft : Draft} {output : Token} (source : Obtainable (.draft draft))
      (added : Obtainable (.token output)) : Obtainable (.draft (draft.addOutput output))
  | addCommand {draft : Draft} (source : Obtainable (.draft draft)) (command : Command) :
      Obtainable (.draft (draft.addCommand command))
  -- proposals
  | build {draft : Draft} {proposal : Proposal} (source : Obtainable (.draft draft))
      (built : draft.build = .ok proposal) : Obtainable (.proposal proposal)
  | create {notary : Party} {output : Token} {start stop : Instant} {proposal : Proposal}
      (source : Obtainable (.token output))
      (made : Proposal.create notary output start stop = .ok proposal) :
      Obtainable (.proposal proposal)
  | move {notary newOwner : Party} {input : Holding} {start stop : Instant} {proposal : Proposal}
      (source : Obtainable (.holding input))
      (made : Proposal.move notary input newOwner start stop = .ok proposal) :
      Obtainable (.proposal proposal)
  | proposalOf {signed : SignedTransaction} (source : Obtainable (.signed signed)) :
      Obtainable (.proposal signed.proposal)
  | readProposal {text : String} {proposal : Proposal}
      (decoded : decode Wire.proposal.read text = .ok proposal) : Obtainable (.proposal proposal)
  -- signed transactions
  | sign {proposal : Proposal} {signer : Party} {keys : KeyStore} {signed : SignedTransaction}
      (source : Obtainable (.proposal proposal)) (made : proposal.sign signer keys = .ok signed) :
      Obtainable (.signed signed)
  | signAs {signed next : SignedTransaction} {signer : Party} {keys : KeyStore}
      (source : Obtainable (.signed signed)) (made : signed.signAs signer keys = .ok next) :
      Obtainable (.signed next)
  | addSignature {signed next : SignedTransaction} {signer : Party} {signature : Signature}
      (source : Obtainable (.signed signed)) (taken : signed.add signer signature = .ok next) :
      Obtainable (.signed next)
  | readSigned {text : String} {signed : SignedTransaction}
      (decoded : decode Wire.readSigned text = .ok signed) : Obtainable (.signed signed)

/-- What is kept by every way of obtaining a value. -/
def Artifact.Sound : Artifact → Prop
  | .token value => value.Sound
  | .holding value => value.token.Sound
  | .window value => value.start < value.stop
  | .draft value => value.Sound
  | .proposal value => value.Sound
  | .signed value => value.proposal.Sound

namespace SignedTransaction

variable {signed next : SignedTransaction} {signer : Party}

/-- Signing attaches a signature of a required signatory, made with the key that was asked for. -/
theorem exists_attach_of_signAs {keys : KeyStore} (made : signed.signAs signer keys = .ok next) :
    signed.requires signer ∧ ∃ signature, keys.signId signed.id signer = .ok signature ∧
      next = signed.attach signer signature := by
  obtain ⟨signature, signs, same⟩ := exists_of_map_eq_ok made
  unfold signatureFor at signs
  split_ifs at signs with required
  exact ⟨required, signature, signs, same.symm⟩

/-- Taking a signature attaches it, if it is that of a required signatory and valid. -/
theorem eq_attach_of_add {signature : Signature} (taken : signed.add signer signature = .ok next) :
    signed.requires signer ∧ signature.verifies signer signed.id = true ∧
      next = signed.attach signer signature := by
  unfold add at taken
  split_ifs at taken with required verifies
  exact ⟨required, verifies, (Except.ok.inj taken).symm⟩

theorem proposal_of_signAs {keys : KeyStore} (made : signed.signAs signer keys = .ok next) :
    next.proposal = signed.proposal := by
  obtain ⟨-, signature, -, attached⟩ := exists_attach_of_signAs made
  rw [attached]
  rfl

theorem proposal_of_add {signature : Signature} (taken : signed.add signer signature = .ok next) :
    next.proposal = signed.proposal := by
  obtain ⟨-, -, attached⟩ := eq_attach_of_add taken
  rw [attached]
  rfl

end SignedTransaction

/-- **Everything that can be obtained is sound.** -/
theorem Obtainable.sound {artifact : Artifact} (obtained : Obtainable artifact) :
    artifact.Sound := by
  induction obtained with
  | newToken made => exact Token.sound_of_create made
  | withOwner _ newOwner source => exact source.withOwner newOwner
  | tokenOf _ source => exact source
  | outputOf _ listed source => exact source.acceptable.sound _ listed
  | readToken decoded => exact Wire.sound_of_reads_token (Codec.reads_of_decode decoded)
  | hold _ _ _ source => exact source
  | output _ found source => exact source.output? found
  | inputOf _ listed source => exact source.inputs _ listed
  | readHolding decoded => exact Wire.sound_of_reads_holding (Codec.reads_of_decode decoded)
  | between bounded =>
    obtain ⟨ordered, same⟩ := TimeWindow.between_eq_ok_iff.mp bounded
    rw [same]
    exact ordered
  | windowOf _ source => exact source.acceptable.ordered
  | readWindow decoded => exact Wire.ordered_of_reads_timeWindow (Codec.reads_of_decode decoded)
  | newDraft => exact Draft.sound_empty
  | withNotary _ notary source => exact source.withNotary notary
  | withTimeWindow _ _ source added => exact source.withTimeWindow added
  | withTimeWindowBetween _ set source => exact source.withTimeWindowBetween set
  | addInput _ _ source added => exact source.addInput added
  | addOutput _ _ source added => exact source.addOutput added
  | addCommand _ command source => exact source.addCommand command
  | build _ built source => exact source.build built
  | create _ made source => exact Proposal.sound_of_create source made
  | move _ made source => exact Proposal.sound_of_move source made
  | proposalOf _ source => exact source
  | readProposal decoded => exact Wire.sound_of_reads_proposal (Codec.reads_of_decode decoded)
  | sign _ made source | signAs _ made source =>
    rw [Artifact.Sound, SignedTransaction.proposal_of_signAs made]
    exact source
  | addSignature _ taken source =>
    rw [Artifact.Sound, SignedTransaction.proposal_of_add taken]
    exact source
  | readSigned decoded =>
    have reads : Wire.unsignedForm.Reads _ := Codec.reads_of_decode decoded
    exact Wire.sound_of_reads_signed reads

/-- **Nothing unacceptable can be obtained.** Every token validates, every window ends after it
starts, and every proposal validates, alone or in a signed transaction; in particular its id is the
hash of its content. So a notary that is asked to rule on an obtainable transaction never finds
fault with its proposal. -/
theorem obtainable_acceptable :
    (∀ token, Obtainable (.token token) → token.validate = .ok ()) ∧
    (∀ window, Obtainable (.window window) → window.start < window.stop) ∧
    (∀ proposal, Obtainable (.proposal proposal) →
      proposal.validate = .ok () ∧ proposal.contentId = proposal.id) ∧
    ∀ signed, Obtainable (.signed signed) →
      signed.proposal.validate = .ok () ∧ signed.proposal.contentId = signed.id ∧
      ∀ (notary : Notary) now observers cause,
        (notary.notarise now signed observers).1 ≠ .error (.proposal cause) := by
  refine ⟨fun token obtained => ?_, fun window obtained => obtained.sound,
    fun proposal obtained => ?_, fun signed obtained => ?_⟩
  · exact (Token.validate_eq_ok_iff token).mpr obtained.sound
  · have acceptable : proposal.Acceptable := (Obtainable.sound obtained).acceptable
    exact ⟨Proposal.validate_eq_ok_iff.mpr acceptable, acceptable.identified⟩
  · have acceptable : signed.proposal.Acceptable := (Obtainable.sound obtained).acceptable
    have valid := Proposal.validate_eq_ok_iff.mpr acceptable
    refine ⟨valid, acceptable.identified, fun notary now observers cause answered => ?_⟩
    have taken := notary.step ⟨now, signed, observers⟩
    rw [Notary.answer, answered] at taken
    generalize notary.after _ = next at taken
    cases taken with
    | unacceptable _ invalid =>
      rw [valid] at invalid
      cases invalid

end TokenLedger
