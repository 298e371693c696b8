import TokenLedger.Curve.Ed25519
import TokenLedger.Proofs.Flow.Reasons
import TokenLedger.Proofs.Flow.WindowEnd
import TokenLedger.Proofs.Proposal.Drafted
import TokenLedger.Proofs.Signing.Collecting
/-!
What the mint flow prepares.

A request is answered by the first reason against it (`Undraftable.prepare_eq`,
`Refuses.prepare_eq`), or with a transaction that is signed by the flow's own party and by nobody
else, because nobody else has to sign (`Accepts.exists_prepared`). The proposal that is drafted on
the way is always acceptable: its token is sound, and its window ends after it starts.

`MintFlow.prepare_answers` says that these are all the answers there are, as long as the window ends
within time.
-/

namespace TokenLedger

namespace MintFlow

/-! ### What is found -/

/-- The parties of a request and the first of the notaries are found. -/
theorem parties_of_cast {flow : MintFlow} {request : MintRequest} {own owner issuer notary : Party}
    (cast : flow.Cast request own owner issuer)
    (first : flow.notaries.head? = some notary) :
    flow.parties request = .ok (own, owner, issuer, notary) := by
  have preferred : flow.preferredNotary = .ok notary := by
    unfold preferredNotary
    cases listed : flow.notaries with
    | nil =>
      rw [listed] at first
      cases first
    | cons head rest =>
      rw [listed] at first
      cases first
      rfl
  unfold parties
  rw [Member.party_of_standsFor cast.own_stands, Membership.party_of_resolves cast.owner_resolves,
    Membership.party_of_resolves cast.issuer_resolves, preferred]
  rfl

end MintFlow

/-! ### Signatures that are missing -/

namespace SignedTransaction

/-- A transaction that only one party has yet to sign. -/
theorem missing_eq_singleton {signed : SignedTransaction} {party : Party}
    (only : ∀ other, other ∈ signed.missing ↔ other = party) : signed.missing = [party] := by
  apply SortedSet.eq_of_mem_iff signed.pairwise_missing (List.pairwise_singleton _ _)
  intro other
  rw [only, List.mem_singleton]

/-- After one signature everyone else who has to sign is missing. -/
theorem mem_missing_attach {proposal : Proposal} {signer party : Party} {signature : Signature} :
    party ∈ ((unsigned proposal).attach signer signature).missing ↔
      party ∈ proposal.requiredSignatories ∧ party ≠ signer := by
  rw [missing_attach, missing_unsigned, List.mem_filter, decide_eq_true_eq]
  rfl

end SignedTransaction

/-- The token that a request asks for, in the hands of its owner. -/
def MintRequest.token (request : MintRequest) (owner issuer : Party) : Token :=
  ⟨request.assetId, Token.quantityOf request.quantity, owner, issuer, [owner, issuer]⟩

section Scheme

variable [SignatureScheme]

namespace MintFlow

variable {flow : MintFlow} {now stop : Instant} {request : MintRequest}
  {own owner issuer notary : Party} {error : FlowError}

/-! ### What the reasons lead to -/

theorem prepare_of_parties {cause : LookupError}
    (unresolved : flow.parties request = .error cause) :
    flow.prepare now request = .error (.failed (.lookup cause)) := by
  unfold prepare
  rw [unresolved]
  rfl

theorem prepare_of_create {cause : TokenError}
    (found : flow.parties request = .ok (own, owner, issuer, notary))
    (refused : Token.create request.assetId request.quantity owner issuer [owner, issuer] =
      .error cause) : flow.prepare now request = .error (.failed (.invalidToken cause)) := by
  unfold prepare
  rw [found]
  show ((Token.create request.assetId request.quantity owner issuer [owner, issuer]).mapError _ >>=
    _) = _
  rw [refused]
  rfl

/-- **A reason against drafting is what the flow reports**, whatever the time. -/
theorem Undraftable.prepare_eq (undraftable : flow.Undraftable request error) :
    flow.prepare now request = .error (.failed error) := by
  cases undraftable with
  | selfKeyless keyless =>
    apply prepare_of_parties
    unfold parties
    rw [Member.party_of_keyless keyless]
    rfl
  | ownerUnknown own_stands unknown =>
    apply prepare_of_parties
    unfold parties
    rw [Member.party_of_standsFor own_stands, Membership.party_of_unknown unknown]
    rfl
  | ownerKeyless own_stands entry keyless =>
    apply prepare_of_parties
    unfold parties
    rw [Member.party_of_standsFor own_stands, Membership.party_of_keyless entry keyless]
    rfl
  | issuerUnknown own_stands owner_resolves unknown =>
    apply prepare_of_parties
    unfold parties
    rw [Member.party_of_standsFor own_stands, Membership.party_of_resolves owner_resolves,
      Membership.party_of_unknown unknown]
    rfl
  | issuerKeyless own_stands owner_resolves entry keyless =>
    apply prepare_of_parties
    unfold parties
    rw [Member.party_of_standsFor own_stands, Membership.party_of_resolves owner_resolves,
      Membership.party_of_keyless entry keyless]
    rfl
  | noNotary cast none_listed =>
    apply prepare_of_parties
    unfold parties preferredNotary
    rw [Member.party_of_standsFor cast.own_stands,
      Membership.party_of_resolves cast.owner_resolves,
      Membership.party_of_resolves cast.issuer_resolves, none_listed]
    rfl
  | emptyAssetId cast listed blank =>
    have first := List.head?_eq_some_head listed
    exact prepare_of_create (parties_of_cast cast first) (Token.create_of_blank blank)
  | nonPositiveQuantity cast listed named not_positive =>
    have first := List.head?_eq_some_head listed
    exact prepare_of_create (parties_of_cast cast first)
      (Token.create_of_not_positive named not_positive)

/-- A proposal is drafted, and then signed if its window ends within time. -/
theorem prepare_of_draftable (draftable : flow.Draftable request own owner issuer)
    (first : flow.notaries.head? = some notary) :
    flow.prepare now request = (flow.windowEnd now >>= fun stop =>
      (Proposal.create notary (request.token owner issuer) now stop).mapError
        (fun cause => .failed (.invalidProposal cause)) >>= fun proposal =>
      (flow.signAlone own proposal).mapError fun cause => .failed (.signing cause)) := by
  have made : Token.create request.assetId request.quantity owner issuer [owner, issuer] =
      .ok (request.token owner issuer) :=
    Token.create_of_positive draftable.named draftable.positive List.mem_cons_self
  unfold prepare
  rw [parties_of_cast draftable.cast first]
  show ((Token.create request.assetId request.quantity owner issuer [owner, issuer]).mapError _ >>=
    _) = _
  rw [made]
  rfl

/-- Nothing is signed whose window would end beyond time. -/
theorem prepare_of_beyond (draftable : flow.Draftable request own owner issuer) {cause : MintStop}
    (beyond : flow.windowEnd now = .error cause) : flow.prepare now request = .error cause := by
  rw [prepare_of_draftable draftable (List.head?_eq_some_head draftable.listed), beyond]
  rfl

/-- What is drafted with a window within time is acceptable, and only signing can fail. -/
theorem prepare_of_ends (draftable : flow.Draftable request own owner issuer)
    (first : flow.notaries.head? = some notary)
    (some_time : 0 < flow.config.validitySeconds.toNat) (ends : flow.windowEnd now = .ok stop) :
    flow.prepare now request =
      (flow.signAlone own (.minting notary (request.token owner issuer) ⟨now, stop⟩)).mapError
        fun cause => .failed (.signing cause) := by
  have sound : (request.token owner issuer).Sound :=
    Token.sound_of_create
      (Token.create_of_positive draftable.named draftable.positive List.mem_cons_self)
  rw [prepare_of_draftable draftable first, ends]
  show ((Proposal.create notary (request.token owner issuer) now stop).mapError _ >>= _) = _
  rw [Proposal.create_eq sound (lt_windowEnd some_time ends)]
  rfl

section Signing

variable {proposal : Proposal} {seed : Bytes32}

theorem signAlone_of_not_required (bystander : own ∉ proposal.requiredSignatories) :
    flow.signAlone own proposal = .error (.notRequiredSignatory own) := by
  have refused : ¬ (SignedTransaction.unsigned proposal).requires own := bystander
  unfold signAlone Proposal.sign SignedTransaction.signAs SignedTransaction.signatureFor
  rw [if_pos refused]
  rfl

theorem signAlone_of_absent (required : own ∈ proposal.requiredSignatories)
    (absent : flow.keys.holds own.key = false) :
    flow.signAlone own proposal = .error (.noAvailableKey own) := by
  have required : ¬ ¬ (SignedTransaction.unsigned proposal).requires own := not_not.mpr required
  unfold signAlone Proposal.sign SignedTransaction.signAs SignedTransaction.signatureFor
  rw [if_neg required, if_pos (by simp [absent])]
  rfl

/-- The flow's own signature, if it is asked for and can be made, is enough or leaves somebody
missing. -/
theorem signAlone_of_held (required : own ∈ proposal.requiredSignatories)
    (held : flow.keys.seeds.get? own.key = some seed) :
    let signed := (SignedTransaction.unsigned proposal).attach own
      ⟨own.key, SignatureScheme.sign seed (Signature.preimage proposal.id)⟩
    flow.signAlone own proposal =
      if signed.isComplete then .ok signed else .error (.incomplete signed.missing) := by
  intro signed
  have signs : (SignedTransaction.unsigned proposal).signAs own flow.keys = .ok signed :=
    SignedTransaction.signAs_of_held required held
  unfold signAlone Proposal.sign
  rw [signs]
  rfl

end Signing

/-- **A reason against a request is what the flow reports**, if the window ends within time. -/
theorem Refuses.prepare_eq (refuses : flow.Refuses request error)
    (some_time : 0 < flow.config.validitySeconds.toNat) (ends : flow.windowEnd now = .ok stop) :
    flow.prepare now request = .error (.failed error) := by
  cases refuses with
  | undraftable undraftable => exact undraftable.prepare_eq
  | notRequired draftable bystander =>
    rw [prepare_of_ends draftable (List.head?_eq_some_head draftable.listed) some_time ends,
      signAlone_of_not_required]
    · rfl
    · rw [Proposal.mem_signatories_minting]
      simpa [MintRequest.token] using bystander
  | noKey draftable takes_part absent =>
    rw [prepare_of_ends draftable (List.head?_eq_some_head draftable.listed) some_time ends,
      signAlone_of_absent _ absent]
    · rfl
    · rw [Proposal.mem_signatories_minting]
      simpa [MintRequest.token] using takes_part
  | incomplete draftable takes_part held too different =>
    rename_i own owner issuer other
    obtain ⟨seed, held⟩ := KeyStore.holds_iff.mp held
    rw [prepare_of_ends draftable (List.head?_eq_some_head draftable.listed) some_time ends,
      signAlone_of_held _ held]
    · -- of owner and issuer one is the flow's own party, so that the other one is missing
      rw [SignedTransaction.isComplete, SignedTransaction.missing_eq_singleton]
      · rfl
      · intro party
        rw [SignedTransaction.mem_missing_attach, Proposal.mem_signatories_minting]
        simp only [MintRequest.token, List.mem_cons, List.not_mem_nil, or_false]
        grind
    · rw [Proposal.mem_signatories_minting]
      simpa [MintRequest.token] using takes_part

/-! ### What is signed -/

/-- The transaction that answers an accepted request: it mints what was asked for to the flow's own
party, from now on for as long as the settings say, and has that party's signature and needs no
other. -/
structure Prepared (flow : MintFlow) (now : Instant) (request : MintRequest) (own : Party)
    (signed : SignedTransaction) : Prop where
  notary : flow.notaries.head? = some signed.proposal.notary
  start_eq : signed.proposal.timeWindow.start = now
  stop_second : signed.proposal.timeWindow.stop.second =
    now.second + flow.config.validitySeconds.toNat
  stop_nano : signed.proposal.timeWindow.stop.nano = now.nano % nanosPerSecond
  inputs_eq : signed.proposal.inputs = []
  outputs_eq : ∃ quantity : UInt64, (quantity.toNat : Int) = request.quantity.toInt ∧
    signed.proposal.outputs = [⟨request.assetId, quantity, own, own, [own, own]⟩]
  commands_eq : signed.proposal.commands.toList = [.ofList .create [own]]
  signatories_eq : signed.proposal.requiredSignatories.toList = [own]
  id_eq : signed.proposal.contentId = signed.id
  signatures_eq : ∃ seed, flow.keys.seeds.get? own.key = some seed ∧
    signed.signatures.toList =
      [(own, ⟨own.key, SignatureScheme.sign seed (Signature.preimage signed.id)⟩)]
  complete : signed.missing = []

/-- **An accepted request is answered with its transaction.** -/
theorem Accepts.exists_prepared (accepts : flow.Accepts request own)
    (some_time : 0 < flow.config.validitySeconds.toNat) (ends : flow.windowEnd now = .ok stop) :
    ∃ signed, flow.prepare now request = .ok signed ∧ flow.Prepared now request own signed := by
  have draftable := accepts.draftable
  have first := List.head?_eq_some_head draftable.listed
  obtain ⟨seed, held⟩ := KeyStore.holds_iff.mp accepts.held
  obtain ⟨stop_second, stop_nano⟩ := (windowEnd_eq_ok_iff some_time).mp ends
  generalize flow.notaries.head draftable.listed = notary at first
  let proposal := Proposal.minting notary (request.token own own) ⟨now, stop⟩
  have signatories : ∀ party, party ∈ proposal.requiredSignatories ↔ party = own := by
    intro party
    rw [Proposal.mem_signatories_minting]
    simp [MintRequest.token]
  let signed := (SignedTransaction.unsigned proposal).attach own
    ⟨own.key, SignatureScheme.sign seed (Signature.preimage proposal.id)⟩
  have complete : signed.missing = [] := by
    refine List.eq_nil_iff_forall_not_mem.mpr fun party missing => ?_
    obtain ⟨required, different⟩ := SignedTransaction.mem_missing_attach.mp missing
    exact different ((signatories party).mp required)
  have signs : flow.signAlone own proposal = .ok signed := by
    rw [signAlone_of_held ((signatories own).mpr rfl) held, if_pos]
    exact List.isEmpty_iff.mpr complete
  refine ⟨signed, ?_, ?_⟩
  · rw [prepare_of_ends draftable first some_time ends, signs]
    rfl
  · constructor
    case notary => exact first
    case start_eq => rfl
    case stop_second => exact stop_second
    case stop_nano => exact stop_nano
    case inputs_eq => rfl
    case outputs_eq =>
      have positive : Token.quantityOf request.quantity ≠ 0 := fun zero =>
        Int.not_le.mpr draftable.positive (Token.quantityOf_eq_zero_iff.mp zero)
      exact ⟨_, Token.toNat_quantityOf positive, rfl⟩
    case commands_eq =>
      have same : Command.ofList .create [own, own] = .ofList .create [own] :=
        congrArg (Command.mk .create) (SortedSet.ofList_congr fun party => by simp)
      exact congrArg (fun command => [command]) same
    case signatories_eq =>
      refine SortedSet.eq_of_mem_iff proposal.requiredSignatories.increasing
        (List.pairwise_singleton _ _) fun party => ?_
      rw [List.mem_singleton]
      exact signatories party
    case id_eq => rfl
    case signatures_eq => exact ⟨seed, held, rfl⟩
    case complete => exact complete

/-- There is an answer to every request if the window ends within time. -/
theorem prepare_cases (flow : MintFlow) (request : MintRequest)
    (some_time : 0 < flow.config.validitySeconds.toNat) (ends : flow.windowEnd now = .ok stop) :
    (∃ own signed, flow.Accepts request own ∧ flow.Prepared now request own signed ∧
      flow.prepare now request = .ok signed) ∨
    ∃ error, flow.Refuses request error ∧ flow.prepare now request = .error (.failed error) := by
  rcases flow.exists_reason request with ⟨own, accepts⟩ | ⟨error, refuses⟩
  · obtain ⟨signed, prepared, what⟩ := accepts.exists_prepared some_time ends
    exact Or.inl ⟨own, signed, accepts, what, prepared⟩
  · exact Or.inr ⟨error, refuses, refuses.prepare_eq some_time ends⟩

/-- **All the answers to a request.** With validated settings and a window that ends within time, a
flow over any list of members, in which a later entry under a name replaces an earlier one, and be
it the flow's own, prepares a transaction exactly for the requests that it accepts, and answers
every other request with the first reason against it. A proposal is never what is wrong. -/
theorem prepare_answers (self : Member) (members : List Member) (notaries : List Party)
    (keys : KeyStore) (config : FlowConfig) (valid : config.validate = .ok ()) (now : Instant)
    (in_time : now.second + config.validitySeconds.toNat ≤ lastSecond) (request : MintRequest) :
    let flow : MintFlow := ⟨.ofMembers self members, notaries, keys, config⟩
    (∀ name, flow.membership.lookup name =
      (self :: members).reverse.find? fun member => member.name = name) ∧
    ((∃ signed, flow.prepare now request = .ok signed) ↔ ∃ own, flow.Accepts request own) ∧
    (∀ signed, flow.prepare now request = .ok signed →
      ∃ own, flow.Accepts request own ∧ flow.Prepared now request own signed) ∧
    (∀ stop, flow.prepare now request = .error stop ↔
      ∃ error, stop = .failed error ∧ flow.Refuses request error) ∧
    ∀ cause, flow.prepare now request ≠ .error (.failed (.invalidProposal cause)) := by
  intro flow
  have some_time : 0 < flow.config.validitySeconds.toNat := FlowConfig.validitySeconds_pos valid
  obtain ⟨stop, ends⟩ := (exists_windowEnd_iff some_time).mpr in_time
  have answers := flow.prepare_cases request some_time ends
  have refused : ∀ cause, flow.prepare now request = .error cause ↔
      ∃ error, cause = .failed error ∧ flow.Refuses request error := by
    intro cause
    constructor
    · intro failed
      rcases answers with ⟨own, signed, -, -, prepared⟩ | ⟨error, refuses, reported⟩
      · rw [prepared] at failed
        cases failed
      · rw [reported] at failed
        exact ⟨error, (Except.error.inj failed).symm, refuses⟩
    · rintro ⟨error, rfl, refuses⟩
      exact refuses.prepare_eq some_time ends
  have answered : ∀ signed, flow.prepare now request = .ok signed →
      ∃ own, flow.Accepts request own ∧ flow.Prepared now request own signed := by
    intro signed prepared
    rcases answers with ⟨own, other, accepts, what, same⟩ | ⟨error, -, reported⟩
    · rw [prepared] at same
      cases same
      exact ⟨own, accepts, what⟩
    · rw [reported] at prepared
      cases prepared
  refine ⟨Membership.lookup_ofMembers self members, ⟨?_, ?_⟩, answered, refused,
    fun cause failed => ?_⟩
  · rintro ⟨signed, prepared⟩
    obtain ⟨own, accepts, -⟩ := answered signed prepared
    exact ⟨own, accepts⟩
  · rintro ⟨own, accepts⟩
    obtain ⟨signed, prepared, -⟩ := accepts.exists_prepared some_time ends
    exact ⟨signed, prepared⟩
  · obtain ⟨error, same, refuses⟩ := (refused _).mp failed
    cases same
    -- no reason against a request is about its proposal
    cases refuses with
    | undraftable undraftable => cases undraftable

end MintFlow

end Scheme

/-! A flow whose own entry among the members was replaced by one with a second key, at a time inside
a leap second. -/

namespace SecondKey

def seed : Bytes32 := .replicate 2

def party : Party := ⟨⟨"CN=Alice"⟩, KeyStore.keyOf seed⟩

def alice : Member := ⟨party.name, [party.key]⟩

def entry : Member := ⟨party.name, [party.key, ⟨.replicate 3⟩]⟩

def members : List Member := [⟨⟨"CN=Bob"⟩, []⟩, ⟨party.name, []⟩, entry]

def flow : MintFlow where
  membership := .ofMembers alice members
  notaries := [⟨⟨"CN=Notary"⟩, ⟨.replicate 9⟩⟩]
  keys := .ofSeeds [seed]
  config := ⟨86400, 30000, 3, .fixed 10⟩

def moment : Instant where
  second := 59
  nano := 1250000000
  firstSecond_le := by decide
  le_lastSecond := by decide
  nano_lt := by decide

def request : MintRequest := ⟨" GOLD", 5, party.name, party.name⟩

theorem valid : flow.config.validate = .ok () := rfl

theorem in_time : moment.second + flow.config.validitySeconds.toNat ≤ lastSecond := by decide

theorem accepts : flow.Accepts request party := by
  have found : flow.membership.lookup party.name = some entry := by
    rw [flow, Membership.lookup_ofMembers]
    simp [members, entry]
  have resolves : flow.membership.Resolves party.name party := ⟨entry, found, rfl, rfl⟩
  have held : flow.keys.seeds.get? party.key = some seed := SortedMap.get?_insert_self _ _ _
  have named : ∃ char ∈ request.assetId.toList, Text.isBlank char = false :=
    ⟨'G', by simp [request], rfl⟩
  exact ⟨⟨⟨⟨rfl, rfl⟩, resolves, resolves⟩, List.cons_ne_nil _ _, named, by decide⟩,
    KeyStore.holds_iff.mpr ⟨seed, held⟩⟩

end SecondKey

open SecondKey in
theorem MintFlow.prepare_answers_secondKey :
    flow.config.validate = .ok () ∧
      moment.second + flow.config.validitySeconds.toNat ≤ lastSecond ∧
      ∃ signed own, flow.prepare moment request = .ok signed ∧
        flow.Prepared moment request own signed := by
  obtain ⟨-, accepted, answered, -, -⟩ :=
    prepare_answers alice members flow.notaries flow.keys flow.config valid moment in_time request
  obtain ⟨signed, prepared⟩ := accepted.mpr ⟨party, accepts⟩
  obtain ⟨own, -, what⟩ := answered signed prepared
  exact ⟨valid, in_time, signed, own, prepared, what⟩

end TokenLedger
