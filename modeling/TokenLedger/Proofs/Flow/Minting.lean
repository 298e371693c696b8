import TokenLedger.Proofs.Flow.Attempts
import TokenLedger.Proofs.Flow.KnownOutcome
import TokenLedger.Proofs.Hex
import TokenLedger.Proofs.Obtainable
import TokenLedger.Proofs.Proposal.Canonical
import TokenLedger.Proofs.Signing.Verification
import TokenLedger.Wire.Mint
/-!
What a run of the mint flow does to the ledger.

A run prepares a transaction and submits it until it has a verdict, over a link in any state to a
notary that has ruled on anything. What it did can be told from its answer:

* `MintFlow.exists_minted_of_prepare`: what is prepared consumes nothing and grants what was asked
  for to the party of the flow itself, since nobody else signs it;
* `MintFlow.transactionId?_of_prepare`: the errors of preparing name no transaction, and those after
  an attempt name the one that was submitted (`MintFlow.transactionId?_of_answerTo`);
* `MintFlow.exists_record_of_attemptAfter`: an id is answered only after the notary has a finalized
  record of it, be it from an earlier submission or from this one;
* `MintFlow.mintedBy_of_record`: this record is of a mint as it was asked for, if the ids of what
  was submitted tell the contents apart.

`MintFlow.RunEffect` states all of this for one run, and `MintFlow.run_and_call_effect` proves it
for every run and for every call with the text of a request.
-/

namespace TokenLedger

open Json

/-! ### What a request asks for -/

/-- A token that grants what a request asks for, owned and issued by one party. -/
structure MintRequest.GrantedBy (request : MintRequest) (party : Party) (token : Token) : Prop where
  assetId : token.assetId = request.assetId
  quantity : (token.quantity.toNat : Int) = request.quantity.toInt
  owner : token.owner = party
  issuer : token.issuer = party

/-- A proposal that consumes nothing and grants a party what a request asks for. -/
structure MintRequest.MintedBy (request : MintRequest) (party : Party) (proposal : Proposal) :
    Prop where
  inputs : proposal.inputs = []
  outputs : ∃ output, proposal.outputs = [output] ∧ request.GrantedBy party output

/-- What is granted depends on the canonical content alone. -/
theorem MintRequest.MintedBy.of_sameContent {request : MintRequest} {party : Party}
    {proposal other : Proposal} (minted : request.MintedBy party proposal)
    (same : other.SameContent proposal) : request.MintedBy party other := by
  obtain ⟨inputs, output, outputs, granted⟩ := minted
  have refs := same.inputRefs
  rw [Proposal.inputRefs, Proposal.inputRefs, inputs, List.map_nil, List.map_eq_nil_iff] at refs
  have agree := same.outputs
  rw [outputs, List.forall₂_cons_right_iff] at agree
  obtain ⟨found, rest, alike, none_left, outputs_eq⟩ := agree
  rw [List.forall₂_nil_right_iff] at none_left
  rw [none_left] at outputs_eq
  exact ⟨refs, found, outputs_eq, alike.assetId.trans granted.assetId,
    alike.quantity ▸ granted.quantity, alike.owner.trans granted.owner,
    alike.issuer.trans granted.issuer⟩

/-! ### What is prepared -/

namespace Token

variable {assetId : String} {asked : Int64} {owner issuer : Party} {participants : List Party}
  {token : Token}

/-- A token that is made has the attributes it is made of. -/
theorem eq_of_create (made : create assetId asked owner issuer participants = .ok token) :
    token = ⟨assetId, quantityOf asked, owner, issuer, participants⟩ := by
  unfold create at made
  dsimp only at made
  split at made
  · exact (Except.ok.inj made).symm
  · cases made
  · cases made

/-- A quantity that is asked for and is not zero is the number that was asked for. -/
theorem toNat_quantityOf (positive : quantityOf asked ≠ 0) :
    ((quantityOf asked).toNat : Int) = asked.toInt := by
  have small : asked.toNatClampNeg < UInt64.size := by
    have := asked.toInt_lt
    unfold Int64.toNatClampNeg UInt64.size
    omega
  have read : (quantityOf asked).toNat = asked.toInt.toNat := UInt64.toNat_ofNat_of_lt' small
  have some_asked : (quantityOf asked).toNat ≠ 0 := fun zero => positive (UInt64.toNat_inj.mp zero)
  omega

end Token

/-- The proposal that mints a token has no inputs and this output, and everyone who takes part in it
has to sign. -/
theorem Proposal.parts_of_create {notary : Party} {output : Token} {start stop : Instant}
    {proposal : Proposal} (made : Proposal.create notary output start stop = .ok proposal) :
    proposal.inputs = [] ∧ proposal.outputs = [output] ∧
      ∀ party, party ∈ proposal.requiredSignatories ↔ party ∈ output.participants := by
  obtain ⟨draft, set, built⟩ := exists_of_bind_eq_ok made
  obtain ⟨-, rfl⟩ := Draft.withTimeWindowBetween_eq_ok_iff.mp set
  obtain ⟨-, -, same⟩ := exists_of_map_eq_ok built
  rw [← same]
  refine ⟨rfl, rfl, fun party => ?_⟩
  change party ∈ SortedSet.union [SortedSet.ofList output.participants] ↔ _
  rw [SortedSet.mem_union]
  simp only [List.mem_singleton, exists_eq_left, SortedSet.mem_ofList]

section Failures

variable {ε ε' α β : Type}

/-- Two steps fail if the first fails, or if the second fails on what the first gives. -/
theorem cases_of_bind_eq_error {first : Except ε α} {next : α → Except ε β} {cause : ε}
    (failed : first >>= next = .error cause) :
    first = .error cause ∨ ∃ between, first = .ok between ∧ next between = .error cause := by
  cases first with
  | error => exact Or.inl (congrArg _ (Except.error.inj failed))
  | ok between => exact Or.inr ⟨between, rfl, failed⟩

theorem exists_of_mapError_eq_error {first : Except ε α} {change : ε → ε'} {cause : ε'}
    (failed : first.mapError change = .error cause) :
    ∃ before, first = .error before ∧ change before = cause := by
  cases first with
  | error before => exact ⟨before, rfl, Except.error.inj failed⟩
  | ok => cases failed

end Failures

section Scheme

variable [SignatureScheme]

/-- If the signature of one party completes a proposal, nobody else has to sign. -/
theorem Proposal.eq_of_sign_complete {proposal : Proposal} {signer party : Party} {keys : KeyStore}
    {signed : SignedTransaction} (made : proposal.sign signer keys = .ok signed)
    (complete : signed.isComplete = true) (required : party ∈ proposal.requiredSignatories) :
    party = signer := by
  obtain ⟨signature, -, rfl⟩ := exists_of_map_eq_ok made
  by_contra other
  have absent : party ∈ ((SignedTransaction.unsigned proposal).attach signer signature).missing :=
    SignedTransaction.mem_missing.mpr ⟨required, SortedMap.get?_insert_of_ne other _ _⟩
  rw [List.isEmpty_iff.mp complete] at absent
  cases absent

namespace MintFlow

variable {flow : MintFlow} {now : Instant} {request : MintRequest} {signed : SignedTransaction}

omit [SignatureScheme] in
theorem self_eq_of_parties {self owner issuer notary : Party}
    (found : flow.parties request = .ok (self, owner, issuer, notary)) :
    flow.membership.self.party = .ok self := by
  obtain ⟨known, self_eq, found⟩ := exists_of_bind_eq_ok found
  obtain ⟨_, _, found⟩ := exists_of_bind_eq_ok found
  obtain ⟨_, _, found⟩ := exists_of_bind_eq_ok found
  obtain ⟨_, _, found⟩ := exists_of_bind_eq_ok found
  cases found
  exact self_eq

/-- **What is prepared grants what was asked for to the party itself**, and to nobody else: its own
signature completes the transaction, so that owner and issuer are the party itself. -/
theorem exists_minted_of_prepare (prepared : flow.prepare now request = .ok signed) :
    ∃ self, flow.membership.self.party = .ok self ∧ request.MintedBy self signed.proposal := by
  obtain ⟨⟨self, owner, issuer, notary⟩, found, prepared⟩ := exists_of_bind_eq_ok prepared
  obtain ⟨token, made, prepared⟩ := exists_of_bind_eq_ok prepared
  obtain ⟨stop, -, prepared⟩ := exists_of_bind_eq_ok prepared
  obtain ⟨proposal, drafted, prepared⟩ := exists_of_bind_eq_ok prepared
  have made := eq_ok_of_mapError_eq_ok made
  obtain ⟨inputs, outputs, signatories⟩ :=
    Proposal.parts_of_create (eq_ok_of_mapError_eq_ok drafted)
  obtain ⟨begun, first, complete⟩ := exists_of_bind_eq_ok (eq_ok_of_mapError_eq_ok prepared)
  split at complete
  · rename_i complete_begun
    cases complete
    have only : ∀ party ∈ [owner, issuer], party = self := by
      intro party takes_part
      have parties_eq : token.participants = [owner, issuer] := by rw [Token.eq_of_create made]
      exact Proposal.eq_of_sign_complete first complete_begun
        ((signatories party).mpr (parties_eq ▸ takes_part))
    have proposal_eq : signed.proposal = proposal := SignedTransaction.proposal_of_signAs first
    refine ⟨self, self_eq_of_parties (eq_ok_of_mapError_eq_ok found), proposal_eq ▸ inputs, token,
      proposal_eq ▸ outputs, ?_⟩
    have positive := (Token.sound_of_create made).positive
    rw [Token.eq_of_create made] at positive ⊢
    exact ⟨rfl, Token.toNat_quantityOf positive, only owner (by simp), only issuer (by simp)⟩
  · cases complete

/-- No error that stops the flow before it submits is about a transaction. -/
theorem transactionId?_of_prepare {error : FlowError}
    (stopped : flow.prepare now request = .error (.failed error)) :
    error.transactionId? = none := by
  rcases cases_of_bind_eq_error stopped with failed | ⟨_, -, stopped⟩
  · obtain ⟨cause, -, same⟩ := exists_of_mapError_eq_error failed
    cases same
    rfl
  rcases cases_of_bind_eq_error stopped with failed | ⟨_, -, stopped⟩
  · obtain ⟨cause, -, same⟩ := exists_of_mapError_eq_error failed
    cases same
    rfl
  rcases cases_of_bind_eq_error stopped with failed | ⟨_, -, stopped⟩
  · unfold windowEnd at failed
    split at failed
    · cases failed
    · cases failed
  rcases cases_of_bind_eq_error stopped with failed | ⟨_, -, stopped⟩
  · obtain ⟨cause, -, same⟩ := exists_of_mapError_eq_error failed
    cases same
    rfl
  · obtain ⟨cause, -, same⟩ := exists_of_mapError_eq_error stopped
    cases same
    rfl

end MintFlow

/-! ### What is submitted -/

namespace LocalLink

/-- One transaction was submitted over a link so many times: these submissions are counted, and of
them some reached the notary. -/
structure Submitted (before : LocalLink) (signed : SignedTransaction) (count : Nat)
    (after : LocalLink) : Prop where
  submissions_eq : after.submissions = before.submissions + count
  ruled : ∃ calls, after.notary = before.notary.run calls ∧ ∀ call ∈ calls, call.signed = signed

theorem Submitted.refl (link : LocalLink) (signed : SignedTransaction) :
    link.Submitted signed 0 link :=
  ⟨rfl, [], rfl, List.forall_mem_nil _⟩

variable {before between : LocalLink} {signed : SignedTransaction} {count : Nat}

theorem submissions_submit (link : LocalLink) (now : Instant) (signed : SignedTransaction)
    (observers : List Party) :
    (link.submit now signed observers).2.submissions = link.submissions + 1 := by
  unfold submit
  dsimp only
  split
  · rfl
  · unfold pass
    split
    · rfl
    · split <;> rfl

/-- One more submission. -/
theorem Submitted.submit (submitted : before.Submitted signed count between) (now : Instant)
    (observers : List Party) :
    before.Submitted signed (count + 1) (between.submit now signed observers).2 := by
  obtain ⟨submissions_eq, calls, notary_eq, same⟩ := submitted
  refine ⟨?_, ?_⟩
  · rw [submissions_submit, submissions_eq, Nat.add_assoc]
  · rcases between.submit_cases now signed observers with ⟨_, -, kept⟩ | ⟨-, ruled⟩
    · exact ⟨calls, kept.trans notary_eq, same⟩
    · refine ⟨calls ++ [⟨now, signed, observers⟩], ?_, ?_⟩
      · rw [ruled, notary_eq, Notary.run_concat]
      · exact List.forall_mem_append.mpr ⟨same, List.forall_mem_singleton.mpr rfl⟩

/-- A finalization that comes back over a link is that of the transaction, which has a finalized
record then. -/
theorem exists_record_of_submit {link : LocalLink} (consistent : link.notary.Consistent)
    {now : Instant} {observers : List Party} {id : TransactionId}
    (heard : (link.submit now signed observers).1.value = .ok (.finalized id)) :
    id = signed.id ∧
      ∃ record, (link.submit now signed observers).2.notary.finalized.get? id = some record := by
  rcases link.submit_cases now signed observers with ⟨cause, failed, -⟩ | ⟨value_eq, ruled⟩
  · rw [failed] at heard
    cases heard
  · rw [value_eq] at heard
    have taken := link.notary.step ⟨now, signed, observers⟩
    rw [eq_ok_of_mapError_eq_ok heard] at taken
    obtain ⟨same, -, record, found⟩ := consistent.answer_finalized taken
    exact ⟨same, record, ruled ▸ found⟩

/-- The link as a channel under a clock that may move between the submissions. -/
def clockedChannel (clock : LocalLink → Instant) : Channel LocalLink :=
  ⟨fun link signed observers => link.submit (clock link) signed observers, ask⟩

end LocalLink

namespace MintFlow

section Attempts

variable [Timers]
variable (flow : MintFlow) (clock : LocalLink → Instant) (signed : SignedTransaction)
  (observers : List Party) (connection : Connection LocalLink)

/-- After so many failed attempts the transaction was submitted as many times. -/
theorem submitted_afterFailures (failures : Nat) :
    connection.state.Submitted signed failures
      (flow.afterFailures (LocalLink.clockedChannel clock) signed observers connection
        failures).state := by
  induction failures with
  | zero => exact LocalLink.Submitted.refl _ _
  | succ failures ih =>
    rw [afterFailures, Connection.wait, Finalizer.state_attempt]
    exact ih.submit _ observers

/-- The attempt after so many failed ones submits it once more. -/
theorem submitted_attemptAfter (failures : Nat) :
    connection.state.Submitted signed (failures + 1)
      (flow.attemptAfter (LocalLink.clockedChannel clock) signed observers connection
        failures).2.state := by
  rw [attemptAfter, Finalizer.state_attempt]
  exact (flow.submitted_afterFailures clock signed observers connection failures).submit _ observers

variable {flow clock signed observers connection}

/-- If an attempt brings a finalization, the transaction has a finalized record. -/
theorem exists_record_of_attemptAfter {failures : Nat} {id : TransactionId}
    (consistent : connection.state.notary.Consistent)
    (heard : (flow.attemptAfter (LocalLink.clockedChannel clock) signed observers connection
      failures).1 = some (.ok (.finalized id))) :
    id = signed.id ∧ ∃ record, (flow.attemptAfter (LocalLink.clockedChannel clock) signed observers
      connection failures).2.state.notary.finalized.get? id = some record := by
  obtain ⟨-, calls, notary_eq, -⟩ :=
    flow.submitted_afterFailures clock signed observers connection failures
  have before := consistent.run calls
  rw [← notary_eq] at before
  rw [attemptAfter, Finalizer.attempt_fst] at heard
  rw [attemptAfter, Finalizer.state_attempt]
  exact LocalLink.exists_record_of_submit before (Reply.value_of_within heard)

end Attempts

end MintFlow

/-! ### What the ledger records -/

/-- The ids of transactions tell their canonical bytes apart, and all of these are within bounds. -/
structure Distinguished (transactions : List SignedTransaction) : Prop where
  fits : ∀ signed ∈ transactions, signed.proposal.Fits
  bytes_eq : ∀ first ∈ transactions, ∀ second ∈ transactions, first.id = second.id →
    first.proposal.canonicalBytes = second.proposal.canonicalBytes

/-- What a text says that a run answers: it is the id of a transaction that the notary finalized, in
lower-case hexadecimal. If the ids of the transactions that were ever submitted tell them apart, the
record of this one is of a mint as it was asked for, to the party of the flow itself. -/
structure MintFlow.Minted (flow : MintFlow) (request : MintRequest)
    (submitted : List SignedTransaction) (notary : Notary) (text : String) : Prop where
  length_eq : text.length = 64
  isDigit : ∀ character ∈ text.toList, Hex.IsDigit character
  finalized : ∃ id, TransactionId.parse text = .ok id ∧
    notary.outcome? id = some (.finalized id) ∧
    (Distinguished submitted → ∃ record self, notary.finalized? id = some record ∧
      flow.membership.self.party = .ok self ∧
      request.MintedBy self record.transaction.proposal)

/-- What a run of the flow for a request does to a connection and to the ledger behind it, which had
ruled on a history before. The journal lists what was submitted. -/
structure MintFlow.RunEffect (flow : MintFlow) (history : List Submission)
    (before : Connection LocalLink) (request : MintRequest) (result : Except MintStop String)
    (after : Connection LocalLink) (journal : List (SignedTransaction × List Party)) : Prop where
  submissions_eq : after.state.submissions = before.state.submissions + journal.length
  /-- Unless the flow stops with an error about a transaction, nothing happened. -/
  unchanged : ∀ stop, result = .error stop →
    (∀ error, stop = .failed error → error.transactionId? = none) → after = before ∧ journal = []
  /-- The transaction that an error is about was submitted. -/
  submitted : ∀ error id, result = .error (.failed error) → error.transactionId? = some id →
    ∃ entry ∈ journal, entry.1.id = id
  minted : ∀ text, result = .ok text →
    flow.Minted request (history.map Submission.signed ++ journal.map Prod.fst) after.state.notary
      text

namespace MintFlow

variable (flow : MintFlow) (identity : Party) (history : List Submission) (link : LocalLink)
  (clock : LocalLink → Instant) (waited : Nat) (now : Instant)

/-- A finalized record that comes about by submissions of a minting transaction is of such a mint,
whichever transaction it is of. -/
theorem mintedBy_of_record {history calls : List Submission} {request : MintRequest} {self : Party}
    {signed : SignedTransaction} (minted : request.MintedBy self signed.proposal)
    (same : ∀ call ∈ calls, call.signed = signed) {submitted : List SignedTransaction}
    (listed : signed ∈ submitted) (earlier : ∀ call ∈ history, call.signed ∈ submitted)
    (distinguished : Distinguished submitted) {record : NotaryRecord}
    (found : ((Notary.fresh identity).run (history ++ calls)).finalized.get? signed.id =
      some record) : request.MintedBy self record.transaction.proposal := by
  obtain ⟨before, call, later, split, settlement⟩ := Notary.exists_settlement found
  have id_eq := ((Notary.consistent_run identity _).justified found).id_eq
  have present : record.transaction ∈ submitted := by
    rw [← settlement.signed_eq]
    have listed_call : call ∈ history ++ calls := split ▸ (by simp)
    rcases List.mem_append.mp listed_call with old | new
    · exact earlier call old
    · exact same call new ▸ listed
  have bytes_eq := distinguished.bytes_eq _ present _ listed id_eq
  exact minted.of_sameContent (Proposal.framed_canonicalBytes.same_of_eq
    (distinguished.fits _ present) (distinguished.fits _ listed) bytes_eq)

omit [SignatureScheme] in
/-- The flow stops after its last attempt with the error of that attempt. -/
theorem stop_of_map_finalize {answer : Except FlowError TransactionId} {stop : MintStop}
    (stopped : (answer.map TransactionId.toHex).mapError .failed = .error stop) :
    ∃ error, stop = .failed error ∧ answer = .error error := by
  cases answer with
  | error error => exact ⟨error, (Except.error.inj stopped).symm, rfl⟩
  | ok id => cases stopped

variable [Timers]

/-- The effect of submitting what was prepared. -/
theorem runEffect_finalize {link : LocalLink}
    (ruled : link.notary = (Notary.fresh identity).run history) {request : MintRequest}
    {signed : SignedTransaction} (prepared : flow.prepare now request = .ok signed) {failures : Nat}
    {ending : Except FlowError TransactionId × Connection LocalLink}
    (course : flow.Course (LocalLink.clockedChannel clock) signed [] ⟨link, waited⟩ failures
      ending) :
    flow.RunEffect history ⟨link, waited⟩ request ((ending.1.map TransactionId.toHex).mapError
      .failed) ending.2 (List.replicate (failures + 1) (signed, [])) := by
  have submitted := flow.submitted_attemptAfter clock signed [] ⟨link, waited⟩ failures
  have listed : (signed, []) ∈ List.replicate (failures + 1) (signed, ([] : List Party)) :=
    List.mem_replicate.mpr ⟨Nat.succ_ne_zero _, rfl⟩
  rw [← course.connection_eq] at submitted
  refine ⟨?_, fun stop stopped unnamed => ?_, fun error id stopped named => ?_,
    fun text answered => ?_⟩
  · rw [List.length_replicate]
    exact submitted.submissions_eq
  · obtain ⟨error, rfl, failed⟩ := stop_of_map_finalize stopped
    rw [course.answer_eq] at failed
    have named := transactionId?_of_answerTo failed
    rw [unnamed error rfl] at named
    cases named
  · obtain ⟨given, same, failed⟩ := stop_of_map_finalize stopped
    cases same
    rw [course.answer_eq] at failed
    rw [transactionId?_of_answerTo failed] at named
    exact ⟨_, listed, Option.some.inj named⟩
  · obtain ⟨id, finalized, rfl⟩ := exists_of_map_eq_ok (eq_ok_of_mapError_eq_ok answered)
    rw [course.answer_eq] at finalized
    have start : link.notary.Consistent := ruled ▸ Notary.consistent_run identity history
    obtain ⟨rfl, record, found⟩ :=
      exists_record_of_attemptAfter start (answerTo_eq_ok_iff.mp finalized)
    rw [← course.connection_eq] at found
    obtain ⟨-, calls, notary_eq, same⟩ := submitted
    dsimp only at notary_eq
    rw [ruled, ← Notary.run_append] at notary_eq
    have later : ending.2.state.notary.Consistent := notary_eq ▸ Notary.consistent_run identity _
    obtain ⟨self, self_eq, minted⟩ := exists_minted_of_prepare prepared
    refine ⟨TransactionId.length_toHex _, fun _ => Hex.mem_encode, signed.id,
      TransactionId.parse_toHex _, later.outcome?_eq found, fun distinguished => ?_⟩
    refine ⟨record, self, (later.finalized?_eq _).trans found, self_eq, ?_⟩
    refine mintedBy_of_record identity minted same (List.mem_append_right _ ?_)
      (fun call old => List.mem_append_left _ (List.mem_map_of_mem old)) distinguished
      (notary_eq ▸ found)
    exact List.mem_map.mpr ⟨_, listed, rfl⟩

/-- The effect of a run. -/
theorem exists_runEffect {link : LocalLink}
    (ruled : link.notary = (Notary.fresh identity).run history)
    (request : MintRequest) :
    let channel := LocalLink.clockedChannel clock
    let before : Connection LocalLink := ⟨link, waited⟩
    let ending := flow.run channel before now request
    ∃ journal, flow.run channel.journaled (before.withJournal []) now request =
        (ending.1, ending.2.withJournal journal) ∧
      flow.RunEffect history before request ending.1 ending.2 journal := by
  intro channel before ending
  cases prepared : flow.prepare now request with
  | error stop =>
    have run_eq : ending = (.error stop, before) := by
      dsimp only [ending]
      rw [run, prepared]
    refine ⟨[], ?_, ?_⟩
    · rw [run_eq, run, prepared]
    · rw [run_eq]
      refine ⟨rfl, fun _ _ _ => ⟨rfl, rfl⟩, fun error id stopped named => ?_, nofun⟩
      cases stopped
      rw [transactionId?_of_prepare prepared] at named
      cases named
  | ok signed =>
    obtain ⟨failures, -, course, -, journal_eq⟩ :=
      flow.exists_course_journaled channel signed [] before
    refine ⟨List.replicate (failures + 1) (signed, []), ?_, ?_⟩
    · dsimp only [ending]
      rw [run, run, prepared]
      dsimp only
      rw [journal_eq]
    · dsimp only [ending]
      rw [run, prepared]
      exact flow.runEffect_finalize identity history clock waited now ruled prepared course

/-- **What a run of the flow and a call to it do**, over a link in any state to a notary that ruled
on any history, under clocks that may move. A run has the effects of `RunEffect`, with a journal of
what it submits. A call with a request that cannot be read does nothing, and every other call does
what the run for its request does. -/
theorem run_and_call_effect :
    let channel := LocalLink.clockedChannel clock
    let before : Connection LocalLink :=
      ⟨{ link with notary := (Notary.fresh identity).run history }, waited⟩
    (∀ request,
      let ending := flow.run channel before now request
      ∃ journal, flow.run channel.journaled (before.withJournal []) now request =
          (ending.1, ending.2.withJournal journal) ∧
        flow.RunEffect history before request ending.1 ending.2 journal) ∧
    (∀ text,
      let called := flow.call channel before now text
      ∃ journal, flow.call channel.journaled (before.withJournal []) now text =
          (called.1, called.2.withJournal journal) ∧
        ((∃ fault, called.1 = .error (.invalidRequest fault) ∧ called.2 = before ∧ journal = []) ∨
          ∃ request result, Json.decode Wire.mintRequest.read text = .ok request ∧
            called.1 = result.mapError .stopped ∧
            flow.RunEffect history before request result called.2 journal)) := by
  intro channel before
  have ruled : before.state.notary = (Notary.fresh identity).run history := rfl
  have runs := flow.exists_runEffect identity history clock waited now ruled
  refine ⟨runs, fun text => ?_⟩
  dsimp only
  unfold call
  cases read : Json.decode Wire.mintRequest.read text with
  | error fault => exact ⟨[], rfl, Or.inl ⟨fault, rfl, rfl, rfl⟩⟩
  | ok request =>
    obtain ⟨journal, journal_eq, effect⟩ := runs request
    refine ⟨journal, ?_, Or.inr ⟨request, _, rfl, rfl, effect⟩⟩
    dsimp only
    rw [journal_eq]

end MintFlow

end Scheme

end TokenLedger
