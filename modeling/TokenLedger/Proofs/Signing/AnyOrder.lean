import TokenLedger.Proofs.Signing.Collecting
/-!
The order in which signatures are collected does not matter.

The first signatory begins a transaction by signing a proposal; the others have their turns after
that. Who has a turn either signs with the key in the store, or brings a signature that was made with
it elsewhere, which is checked again before it is taken. A party may have several turns.

What is there after some turns depends on who had one (`SignedBy`), because a signature depends on
the key and the id alone. A turn keeps this up (`SignedBy.take`), and a turn of a required signatory
whose key is held is never refused (`exists_take`). `collect_in_any_order` puts two sequences of the
same signers side by side.
-/

namespace TokenLedger

open SignatureScheme (AcceptsOwn)

section Scheme

variable [SignatureScheme]

/-! ### Turns -/

/-- A party's turn to sign. -/
inductive Turn where
  /-- The party signs with a local key. -/
  | signs (signer : Party)
  /-- A signature that was made with a local key is brought on behalf of the party. -/
  | brings (signer : Party)
deriving DecidableEq

/-- Whose turn it is. -/
def Turn.signer : Turn → Party
  | .signs signer | .brings signer => signer

/-- The transaction after a turn. -/
def SignedTransaction.take (signed : SignedTransaction) (keys : KeyStore) :
    Turn → Except SigningError SignedTransaction
  | .signs signer => signed.signAs signer keys
  | .brings signer => keys.signId signed.id signer >>= signed.add signer

/-- Who signs: one party first, others in their turns after that. -/
structure Sequence where
  first : Party
  turns : List Turn

namespace Sequence

def signers (sequence : Sequence) : List Party :=
  sequence.first :: sequence.turns.map Turn.signer

/-- The transaction after the first signature and all turns. -/
def collect (sequence : Sequence) (proposal : Proposal) (keys : KeyStore) :
    Except SigningError SignedTransaction :=
  proposal.sign sequence.first keys >>= fun begun =>
    sequence.turns.foldlM (fun signed turn => signed.take keys turn) begun

/-- Everyone in the sequence has to sign and can. -/
def Able (sequence : Sequence) (proposal : Proposal) (keys : KeyStore) : Prop :=
  ∀ signer ∈ sequence.signers,
    signer ∈ proposal.requiredSignatories ∧ keys.holds signer.key = true

/-- **One signatory less with each turn**, at most: nobody else is struck off the missing, and nobody
joins them. -/
structure LosesOnlySigners (sequence : Sequence) (proposal : Proposal) (keys : KeyStore) :
    Prop where
  begins : ∃ begun, proposal.sign sequence.first keys = .ok begun ∧
    begun.missing =
      (SignedTransaction.unsigned proposal).missing.filter fun party => party ≠ sequence.first
  goes_on : ∀ {earlier turn later}, sequence.turns = earlier ++ turn :: later →
    ∃ before after, collect ⟨sequence.first, earlier⟩ proposal keys = .ok before ∧
      before.take keys turn = .ok after ∧
      after.missing = before.missing.filter fun party => party ≠ turn.signer

variable {proposal : Proposal} {keys : KeyStore} {first : Party} {earlier : List Turn} {turn : Turn}

theorem collect_concat :
    collect ⟨first, earlier ++ [turn]⟩ proposal keys =
      collect ⟨first, earlier⟩ proposal keys >>= fun before => before.take keys turn := by
  simp [collect, List.foldlM_append]

omit [SignatureScheme] in
theorem signers_concat :
    signers ⟨first, earlier ++ [turn]⟩ = signers ⟨first, earlier⟩ ++ [turn.signer] := by
  simp [signers]

end Sequence

namespace SignedTransaction

variable {signed next other : SignedTransaction} {proposal : Proposal} {keys : KeyStore}
  {signers : List Party} {turn : Turn}

/-! ### One turn -/

/-- What a turn leaves behind: a signature that is made with the key in the store. -/
theorem exists_attach_of_take (taken : signed.take keys turn = .ok next) :
    ∃ signature, keys.signId signed.id turn.signer = .ok signature ∧
      next = signed.attach turn.signer signature := by
  cases turn with
  | signs signer =>
    obtain ⟨-, signature, made, attached⟩ := exists_attach_of_signAs taken
    exact ⟨signature, made, attached⟩
  | brings signer =>
    cases made : keys.signId signed.id signer with
    | error refusal =>
      rw [take, made] at taken
      cases taken
    | ok signature =>
      rw [take, made] at taken
      obtain ⟨-, -, attached⟩ := eq_attach_of_add taken
      exact ⟨signature, made, attached⟩

/-- **A turn strikes nobody but its signer off the missing**, and adds nobody to them. -/
theorem missing_take (taken : signed.take keys turn = .ok next) :
    next.missing = signed.missing.filter fun party => party ≠ turn.signer := by
  obtain ⟨signature, -, attached⟩ := exists_attach_of_take taken
  rw [attached, missing_attach]

theorem add_of_verifies {signer : Party} {signature : Signature} (required : signed.requires signer)
    (verifies : signature.verifies signer signed.id = true) :
    signed.add signer signature = .ok (signed.attach signer signature) := by
  rw [add, if_neg (not_not_intro required), if_neg (not_not_intro verifies)]

/-- **A required signatory whose key is held is not refused.** -/
theorem exists_take {seeds : List Bytes32}
    (accepted : ∀ seed ∈ seeds, AcceptsOwn seed (Signature.preimage signed.id))
    (required : signed.requires turn.signer)
    (held : (KeyStore.ofSeeds seeds).holds turn.signer.key = true) :
    ∃ next, signed.take (.ofSeeds seeds) turn = .ok next := by
  obtain ⟨seed, found⟩ := KeyStore.holds_iff.mp held
  cases turn with
  | signs signer => exact ⟨_, signAs_of_held required found⟩
  | brings signer =>
    have made : (KeyStore.ofSeeds seeds).signId signed.id signer = .ok _ :=
      KeyStore.signId_of_held found
    have verifies := KeyStore.verifies_of_signId accepted made
    have brought : signed.take (.ofSeeds seeds) (.brings signer) = signed.add signer _ :=
      congrArg (· >>= signed.add signer) made
    exact ⟨_, brought.trans (add_of_verifies required verifies)⟩

/-! ### Who has signed -/

/-- The proposal with exactly the signatures of some parties, made with the keys in a store. -/
structure SignedBy (signed : SignedTransaction) (proposal : Proposal) (keys : KeyStore)
    (signers : List Party) : Prop where
  proposal_eq : signed.proposal = proposal
  get?_eq_some_iff : ∀ party signature, signed.signatures.get? party = some signature ↔
    party ∈ signers ∧ keys.signId proposal.id party = .ok signature
  missing_eq : signed.missing =
    proposal.requiredSignatories.toList.filter fun party => party ∉ signers

theorem signedBy_unsigned : (unsigned proposal).SignedBy proposal keys [] where
  proposal_eq := rfl
  get?_eq_some_iff party signature := by simp [unsigned]
  missing_eq := by simp [missing_unsigned]

/-- A turn adds its signer. -/
theorem SignedBy.take (by_signers : signed.SignedBy proposal keys signers)
    (taken : signed.take keys turn = .ok next) :
    next.SignedBy proposal keys (signers ++ [turn.signer]) := by
  obtain ⟨signature, made, attached⟩ := exists_attach_of_take taken
  rw [id, by_signers.proposal_eq] at made
  rw [attached]
  constructor
  · exact by_signers.proposal_eq
  · intro party stored
    rw [attach, SortedMap.get?_insert, List.mem_append, List.mem_singleton]
    by_cases same : party = turn.signer
    · rw [if_pos same, same, made]
      simp
    · rw [if_neg same, by_signers.get?_eq_some_iff]
      simp [same]
  · rw [missing_attach, by_signers.missing_eq, List.filter_filter]
    refine List.filter_congr fun party _ => ?_
    simp [Bool.and_comm]

/-- Two transactions that were signed by the same parties are equal. -/
theorem SignedBy.eq {others : List Party} (by_signers : signed.SignedBy proposal keys signers)
    (by_others : other.SignedBy proposal keys others)
    (same : ∀ party, party ∈ signers ↔ party ∈ others) : signed = other := by
  have signatures : signed.signatures = other.signatures := SortedMap.ext fun party =>
    Option.ext fun signature => by
      rw [by_signers.get?_eq_some_iff, by_others.get?_eq_some_iff, same party]
  have proposals := by_signers.proposal_eq.trans by_others.proposal_eq.symm
  cases signed; cases other; cases signatures; cases proposals; rfl

end SignedTransaction

/-! ### All turns -/

namespace Sequence

variable {proposal : Proposal} {seeds : List Bytes32}

omit [SignatureScheme] in
/-- Whoever is able to take part in a sequence is able to take part in the beginning of it. -/
theorem Able.earlier {keys : KeyStore} {first : Party} {earlier later : List Turn}
    (able : Able ⟨first, earlier ++ later⟩ proposal keys) : Able ⟨first, earlier⟩ proposal keys := by
  intro signer listed
  refine able signer ?_
  rw [signers, List.map_append, ← List.cons_append]
  exact List.mem_append_left _ listed

section Able

variable {sequence : Sequence}
  (accepted : ∀ seed ∈ seeds, AcceptsOwn seed (Signature.preimage proposal.id))

include accepted in
/-- The first signature can be made, and nobody but its signer has signed then. -/
theorem exists_begin (able : sequence.Able proposal (.ofSeeds seeds)) :
    ∃ begun, proposal.sign sequence.first (.ofSeeds seeds) = .ok begun ∧
      begun.SignedBy proposal (.ofSeeds seeds) [sequence.first] ∧
      begun.missing =
        (SignedTransaction.unsigned proposal).missing.filter fun party => party ≠ sequence.first := by
  obtain ⟨required, held⟩ := able sequence.first List.mem_cons_self
  obtain ⟨begun, taken⟩ : ∃ begun, (SignedTransaction.unsigned proposal).take (.ofSeeds seeds)
      (.signs sequence.first) = .ok begun := SignedTransaction.exists_take accepted required held
  exact ⟨begun, taken, SignedTransaction.signedBy_unsigned.take taken,
    SignedTransaction.missing_take taken⟩

include accepted in
/-- The next turn can be taken after the turns before it. -/
theorem exists_next {first : Party} {earlier : List Turn} {turn : Turn} {before : SignedTransaction}
    (able : Able ⟨first, earlier ++ [turn]⟩ proposal (.ofSeeds seeds))
    (by_earlier : before.SignedBy proposal (.ofSeeds seeds) (signers ⟨first, earlier⟩)) :
    ∃ after, before.take (.ofSeeds seeds) turn = .ok after := by
  obtain ⟨required, held⟩ := able turn.signer (by simp [signers])
  rw [← by_earlier.proposal_eq] at accepted required
  exact SignedTransaction.exists_take accepted required held

include accepted in
/-- **All turns can be taken**, and exactly their signers have signed then. -/
theorem exists_collect (able : sequence.Able proposal (.ofSeeds seeds)) :
    ∃ signed, sequence.collect proposal (.ofSeeds seeds) = .ok signed ∧
      signed.SignedBy proposal (.ofSeeds seeds) sequence.signers := by
  obtain ⟨first, turns⟩ := sequence
  induction turns using List.reverseRecOn with
  | nil =>
    obtain ⟨begun, made, by_first, -⟩ := exists_begin accepted able
    refine ⟨begun, ?_, by_first⟩
    rw [collect, made]
    rfl
  | append_singleton earlier turn ih =>
    obtain ⟨before, collected, by_earlier⟩ := ih able.earlier
    obtain ⟨after, taken⟩ := exists_next accepted able by_earlier
    refine ⟨after, ?_, ?_⟩
    · rw [collect_concat, collected]
      exact taken
    · rw [signers_concat]
      exact by_earlier.take taken

include accepted in
theorem losesOnlySigners (able : sequence.Able proposal (.ofSeeds seeds)) :
    sequence.LosesOnlySigners proposal (.ofSeeds seeds) := by
  obtain ⟨first, turns⟩ := sequence
  constructor
  · obtain ⟨begun, made, -, missing_eq⟩ := exists_begin accepted able
    exact ⟨begun, made, missing_eq⟩
  · rintro earlier turn later rfl
    rw [← List.singleton_append, ← List.append_assoc] at able
    obtain ⟨before, collected, by_earlier⟩ := exists_collect accepted able.earlier.earlier
    obtain ⟨after, taken⟩ := exists_next accepted able.earlier by_earlier
    exact ⟨before, after, collected, taken, SignedTransaction.missing_take taken⟩

end Able

/-- **Signatures can be collected in any order.** Two sequences of the same signers, each of whom has
to sign and has a key in the store, go through without a refusal, whatever the order, however often
somebody has a turn, and whether a signature is made in place or brought. They end in the same
transaction, which lacks the signatures of the other required signatories, in their order. Of the
scheme this takes that it accepts its own signatures of the id. -/
theorem collect_in_any_order {left right : Sequence}
    (accepted : ∀ seed ∈ seeds, AcceptsOwn seed (Signature.preimage proposal.id))
    (left_able : left.Able proposal (.ofSeeds seeds))
    (right_able : right.Able proposal (.ofSeeds seeds))
    (same : ∀ party, party ∈ left.signers ↔ party ∈ right.signers) :
    ∃ signed, left.collect proposal (.ofSeeds seeds) = .ok signed ∧
      right.collect proposal (.ofSeeds seeds) = .ok signed ∧
      signed.missing =
        proposal.requiredSignatories.toList.filter (fun party => party ∉ left.signers) ∧
      left.LosesOnlySigners proposal (.ofSeeds seeds) ∧
      right.LosesOnlySigners proposal (.ofSeeds seeds) := by
  obtain ⟨signed, left_collected, by_left⟩ := exists_collect accepted left_able
  obtain ⟨other, right_collected, by_right⟩ := exists_collect accepted right_able
  refine ⟨signed, left_collected, ?_, by_left.missing_eq, losesOnlySigners accepted left_able,
    losesOnlySigners accepted right_able⟩
  rw [right_collected, by_left.eq by_right same]

end Sequence

end Scheme

/-! The mint with a second required signatory, and a third that does not sign. -/

namespace SharedMint

open Notary

def partner : Party where
  name := ⟨"CN=Partner"⟩
  key := ⟨.ofNat 94631498317468482426651442537008487993873081753380206627715717866622697359853⟩

def partnerSeed : Bytes32 := .replicate 3

def seeds : List Bytes32 := [GoldMint.seed, partnerSeed]

def proposal : Proposal :=
  { GoldMint.proposal with
    requiredSignatories := .ofList [GoldMint.issuer, GoldMint.notary, partner] }

def signature : Signature where
  signer := partner.key
  bytes :=
    littleEndian 32
        35695320181793926350638704134343809950855580200103043014487358624031128416602 ++
      littleEndian 32
        1190376773002663876005103486367840962229814013325762563212930171204619100965

/-- The issuer twice, and the partner's signature brought in between. -/
def issuerFirst : Sequence := ⟨GoldMint.issuer, [.brings partner, .signs GoldMint.issuer]⟩

def partnerFirst : Sequence := ⟨partner, [.brings GoldMint.issuer]⟩

theorem keyOf_partnerSeed : KeyStore.keyOf partnerSeed = partner.key := by decide +kernel

theorem sign_partnerSeed :
    SignatureScheme.sign partnerSeed (Signature.preimage proposal.id) = signature.bytes := by
  rw [show proposal.id = _ from GoldMint.id_eq]
  decide +kernel

theorem verifies_signature : signature.verifies partner proposal.id = true := by
  rw [show proposal.id = _ from GoldMint.id_eq]
  decide +kernel

theorem acceptsOwn_seeds : ∀ seed ∈ seeds, AcceptsOwn seed (Signature.preimage proposal.id) := by
  refine List.forall_mem_cons.mpr ⟨GoldMint.acceptsOwn_seed, List.forall_mem_singleton.mpr ?_⟩
  exact KeyStore.acceptsOwn_of_verifies keyOf_partnerSeed sign_partnerSeed verifies_signature

theorem able {sequence : Sequence}
    (ours : ∀ signer ∈ sequence.signers, signer = GoldMint.issuer ∨ signer = partner) :
    sequence.Able proposal (.ofSeeds seeds) := by
  intro signer listed
  rcases ours signer listed with rfl | rfl
  · refine ⟨SortedSet.mem_ofList.mpr (by simp), KeyStore.holds_ofSeeds_iff.mpr ?_⟩
    exact ⟨GoldMint.seed, by simp [seeds], GoldMint.keyOf_seed⟩
  · refine ⟨SortedSet.mem_ofList.mpr (by simp), KeyStore.holds_ofSeeds_iff.mpr ?_⟩
    exact ⟨partnerSeed, by simp [seeds], keyOf_partnerSeed⟩

end SharedMint

open SharedMint in
theorem Sequence.collect_in_any_order_sharedMint :
    (∀ seed ∈ seeds, AcceptsOwn seed (Signature.preimage proposal.id)) ∧
    issuerFirst.Able proposal (.ofSeeds seeds) ∧ partnerFirst.Able proposal (.ofSeeds seeds) ∧
    (∀ party, party ∈ issuerFirst.signers ↔ party ∈ partnerFirst.signers) ∧
    ∃ signed, issuerFirst.collect proposal (.ofSeeds seeds) = .ok signed ∧
      partnerFirst.collect proposal (.ofSeeds seeds) = .ok signed ∧
      signed.missing = [Notary.GoldMint.notary] := by
  have issuer_able : issuerFirst.Able proposal (.ofSeeds seeds) := able (by
    simp [issuerFirst, Sequence.signers, Turn.signer])
  have partner_able : partnerFirst.Able proposal (.ofSeeds seeds) := able (by
    simp [partnerFirst, Sequence.signers, Turn.signer])
  have same : ∀ party, party ∈ issuerFirst.signers ↔ party ∈ partnerFirst.signers := by
    intro party
    simp only [issuerFirst, partnerFirst, Sequence.signers, Turn.signer, List.map_cons,
      List.map_nil, List.mem_cons, List.not_mem_nil, or_false]
    tauto
  obtain ⟨signed, by_issuer, by_partner, missing_eq, -, -⟩ :=
    collect_in_any_order acceptsOwn_seeds issuer_able partner_able same
  refine ⟨acceptsOwn_seeds, issuer_able, partner_able, same, signed, by_issuer, by_partner, ?_⟩
  rw [missing_eq]
  decide +kernel

end TokenLedger
