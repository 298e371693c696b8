import TokenLedger.Proofs.Notary.Finality
import TokenLedger.Proofs.Obtainable
import TokenLedger.Proofs.Signing.Verification
/-!
Collecting signatures, one after the other.

A transaction is begun by a first signature or read from a text, and then takes contributions: a
signature made with a local key, or one made elsewhere. Some of them fail. Whatever comes in what
order, every signature that is stored is good (`WellSigned`):

* a signature from elsewhere is checked before it is stored (`WellSigned.add`);
* a signature made with a local key is not, but a key store holds each seed under its own public key
  (`KeyStore.get?_ofSeeds`), so that what it signs with is the key that was asked for, and the
  scheme accepts what was signed (`KeyStore.verifies_of_signId`).

So the only thing that can be wrong with a transaction on its way is that a signature is missing
(`WellSigned.verify_eq`). `collect_verify` says so for every way to begin and all contributions.
-/

namespace TokenLedger

open SignatureScheme (AcceptsOwn)

section Scheme

variable [SignatureScheme]

/-! ### Local keys -/

namespace KeyStore

omit [SignatureScheme] in
/-- A key is held if there is a seed under it. -/
theorem holds_iff {keys : KeyStore} {key : LedgerKey} :
    keys.holds key = true ↔ ∃ seed, keys.seeds.get? key = some seed :=
  Option.isSome_iff_exists

theorem holds_insert {store : KeyStore} {seed : Bytes32} {key : LedgerKey} :
    (store.insert seed).holds key = true ↔ keyOf seed = key ∨ store.holds key = true := by
  rw [holds, SortedMap.contains, insert, SortedMap.get?_insert]
  split_ifs with same
  · simp [same]
  · simp [Ne.symm same, holds, SortedMap.contains]

theorem holds_foldl_insert {seeds : List Bytes32} {store : KeyStore} {key : LedgerKey} :
    (seeds.foldl insert store).holds key = true ↔
      (∃ seed ∈ seeds, keyOf seed = key) ∨ store.holds key = true := by
  induction seeds generalizing store with
  | nil => simp
  | cons first rest ih =>
    rw [List.foldl_cons, ih, holds_insert, List.exists_mem_cons_iff, or_left_comm, or_assoc]

/-- The keys that a store holds are those of the seeds it was made from. -/
theorem holds_ofSeeds_iff {seeds : List Bytes32} {key : LedgerKey} :
    (ofSeeds seeds).holds key = true ↔ ∃ seed ∈ seeds, keyOf seed = key := by
  rw [ofSeeds, holds_foldl_insert]
  simp [holds, SortedMap.contains, empty]

theorem signId_of_held {keys : KeyStore} {id : TransactionId} {signer : Party} {seed : Bytes32}
    (held : keys.seeds.get? signer.key = some seed) : keys.signId id signer =
      .ok ⟨signer.key, SignatureScheme.sign seed (Signature.preimage id)⟩ := by
  rw [signId, signBytes, held]
  rfl

theorem get?_foldl_insert {seeds : List Bytes32} {store : KeyStore} {key : LedgerKey}
    {seed : Bytes32} (found : (seeds.foldl insert store).seeds.get? key = some seed) :
    seed ∈ seeds ∧ keyOf seed = key ∨ store.seeds.get? key = some seed := by
  induction seeds generalizing store with
  | nil => exact Or.inr found
  | cons first rest ih =>
    rcases ih found with ⟨listed, own⟩ | earlier
    · exact Or.inl ⟨List.mem_cons_of_mem _ listed, own⟩
    · rw [insert, SortedMap.get?_insert] at earlier
      split_ifs at earlier with same
      · cases earlier
        exact Or.inl ⟨List.mem_cons_self, same.symm⟩
      · exact Or.inr earlier

/-- **A key store holds its seeds under their own public keys.** -/
theorem get?_ofSeeds {seeds : List Bytes32} {key : LedgerKey} {seed : Bytes32}
    (found : (ofSeeds seeds).seeds.get? key = some seed) : seed ∈ seeds ∧ keyOf seed = key := by
  rcases get?_foldl_insert found with own | absent
  · exact own
  · cases absent

/-- A signature made with a local key is valid for the party that was asked for. -/
theorem verifies_of_signId {seeds : List Bytes32} {id : TransactionId} {signer : Party}
    {signature : Signature}
    (accepted : ∀ seed ∈ seeds, AcceptsOwn seed (Signature.preimage id))
    (made : (ofSeeds seeds).signId id signer = .ok signature) :
    signature.verifies signer id = true := by
  unfold signId at made
  split at made
  · rename_i bytes signed
    obtain ⟨seed, held, rfl⟩ := Option.map_eq_some_iff.mp signed
    obtain ⟨listed, own⟩ := get?_ofSeeds held
    obtain ⟨isKey, length_eq, accepts⟩ := accepted seed listed
    have key_eq : signer.key.bytes = SignatureScheme.publicKey seed :=
      congrArg LedgerKey.bytes own.symm
    cases made
    simp [Signature.verifies, key_eq, isKey, length_eq, accepts]
  · cases made

/-- A signature that verifies shows that the scheme accepts it from the seed it was made with. -/
theorem acceptsOwn_of_verifies {seed : Bytes32} {party : Party} {id : TransactionId}
    {signature : Signature} (own : keyOf seed = party.key)
    (made : SignatureScheme.sign seed (Signature.preimage id) = signature.bytes)
    (verifies : signature.verifies party id = true) :
    AcceptsOwn seed (Signature.preimage id) := by
  have key_eq : SignatureScheme.publicKey seed = party.key.bytes := congrArg LedgerKey.bytes own
  simp only [Signature.verifies, Bool.and_eq_true, beq_iff_eq] at verifies
  obtain ⟨⟨⟨-, isKey⟩, length_eq⟩, accepts⟩ := verifies
  constructor
  · rw [key_eq, isKey]
  · rw [made, length_eq]
  · rw [key_eq, made, accepts]

end KeyStore

namespace SignedTransaction

/-- A required signatory whose seed is held signs. -/
theorem signAs_of_held {signed : SignedTransaction} {signer : Party} {keys : KeyStore}
    {seed : Bytes32} (required : signed.requires signer)
    (held : keys.seeds.get? signer.key = some seed) :
    signed.signAs signer keys = .ok (signed.attach signer
      ⟨signer.key, SignatureScheme.sign seed (Signature.preimage signed.id)⟩) := by
  have holds : keys.holds signer.key = true := Option.isSome_iff_exists.mpr ⟨seed, held⟩
  simp [signAs, signatureFor, required, holds, KeyStore.signId_of_held held, Except.map]

/-! ### Good signatures -/

/-- Every stored signature is that of a required signatory and valid for it, and the id is the hash
of the content. -/
structure WellSigned (signed : SignedTransaction) : Prop where
  identified : signed.proposal.contentId = signed.id
  stored : ∀ {party signature}, signed.signatures.get? party = some signature →
    signed.requires party ∧ signature.verifies party signed.id = true

theorem wellSigned_of_empty {signed : SignedTransaction} (sound : signed.proposal.Sound)
    (bare : signed.signatures = .empty) : signed.WellSigned where
  identified := sound.acceptable.identified
  stored found := by
    rw [bare] at found
    cases found

namespace WellSigned

variable {signed : SignedTransaction} {party : Party}

theorem attach (good : signed.WellSigned) {signature : Signature}
    (required : signed.requires party) (verifies : signature.verifies party signed.id = true) :
    (signed.attach party signature).WellSigned where
  identified := good.identified
  stored {other another} found := by
    rw [SignedTransaction.attach, SortedMap.get?_insert] at found
    split_ifs at found with same
    · cases found
      rw [same]
      exact ⟨required, verifies⟩
    · exact good.stored found

theorem signAs (good : signed.WellSigned) {seeds : List Bytes32} {next : SignedTransaction}
    (accepted : ∀ seed ∈ seeds, AcceptsOwn seed (Signature.preimage signed.id))
    (made : signed.signAs party (.ofSeeds seeds) = .ok next) : next.WellSigned := by
  obtain ⟨required, signature, signs, attached⟩ := exists_attach_of_signAs made
  rw [attached]
  exact good.attach required (KeyStore.verifies_of_signId accepted signs)

theorem add (good : signed.WellSigned) {signature : Signature} {next : SignedTransaction}
    (taken : signed.add party signature = .ok next) : next.WellSigned := by
  obtain ⟨required, verifies, attached⟩ := eq_attach_of_add taken
  rw [attached]
  exact good.attach required verifies

/-- **A transaction with good signatures is refused for missing ones only**, and then for the
first. -/
theorem verify_eq (good : signed.WellSigned) :
    signed.verify = match signed.missing with
      | [] => .ok ()
      | party :: _ => .error (.missingSignature party) := by
  cases absent : signed.missing with
  | cons party rest =>
    unfold verify
    rw [absent]
  | nil =>
    refine verify_eq_ok_iff.mpr fun party required => isSignedBy_iff.mpr ⟨good.identified, ?_⟩
    cases found : signed.signatures.get? party with
    | none =>
      have listed := mem_missing.mpr ⟨required, found⟩
      rw [absent] at listed
      cases listed
    | some signature => exact ⟨signature, rfl, (good.stored found).2⟩

end WellSigned

omit [SignatureScheme] in
/-- The missing signatories are listed in their order. -/
theorem pairwise_missing (signed : SignedTransaction) :
    signed.missing.Pairwise fun left right => compare left right = .lt :=
  signed.proposal.requiredSignatories.increasing.filter _

omit [SignatureScheme] in
theorem missing_unsigned {proposal : Proposal} :
    (unsigned proposal).missing = proposal.requiredSignatories.toList :=
  List.filter_eq_self.mpr fun _ _ => rfl

omit [SignatureScheme] in
/-- A signature strikes its signer off the missing. -/
theorem missing_attach {signed : SignedTransaction} {signer : Party} {signature : Signature} :
    (signed.attach signer signature).missing =
      signed.missing.filter fun party => party ≠ signer := by
  rw [missing, missing, List.filter_filter]
  refine List.filter_congr fun party _ => ?_
  show (!((signed.signatures.insert signer signature).get? party).isSome) = _
  rw [SortedMap.get?_insert]
  by_cases same : party = signer
  · simp [same]
  · simp [same, SortedMap.contains]

/-! ### Contributions -/

/-- A signature that is to be collected: made by a party with the local keys of some seeds, or made
elsewhere and brought on behalf of a party. -/
inductive Contribution where
  | made (signer : Party) (seeds : List Bytes32)
  | brought (signer : Party) (signature : Signature)

/-- The seeds that a contribution can be signed with. -/
def Contribution.seeds : Contribution → List Bytes32
  | .made _ seeds => seeds
  | .brought _ _ => []

/-- The transaction with a contribution, or why it was not taken. -/
def contribute (signed : SignedTransaction) :
    Contribution → Except SigningError SignedTransaction
  | .made signer seeds => signed.signAs signer (.ofSeeds seeds)
  | .brought signer signature => signed.add signer signature

/-- The transaction after a contribution, which may have failed. -/
def after (signed : SignedTransaction) (contribution : Contribution) : SignedTransaction :=
  match signed.contribute contribution with
  | .ok next => next
  | .error _ => signed

/-- The transaction after a list of contributions, the first of them first. -/
def collect (signed : SignedTransaction) (contributions : List Contribution) :
    SignedTransaction :=
  contributions.foldl after signed

variable {signed : SignedTransaction}

theorem proposal_after (contribution : Contribution) :
    (signed.after contribution).proposal = signed.proposal := by
  unfold after
  split
  · rename_i next taken
    cases contribution with
    | made => exact proposal_of_signAs taken
    | brought => exact proposal_of_add taken
  · rfl

/-- One contribution keeps the signatures good. -/
theorem WellSigned.after (good : signed.WellSigned) {contribution : Contribution}
    (accepted : ∀ seed ∈ contribution.seeds, AcceptsOwn seed (Signature.preimage signed.id)) :
    (signed.after contribution).WellSigned := by
  unfold SignedTransaction.after
  split
  · rename_i next taken
    cases contribution with
    | made => exact good.signAs accepted taken
    | brought => exact good.add taken
  · exact good

/-- All contributions keep the signatures good. -/
theorem WellSigned.collect (good : signed.WellSigned) {contributions : List Contribution}
    (accepted : ∀ seed ∈ contributions.flatMap Contribution.seeds,
      AcceptsOwn seed (Signature.preimage signed.id)) :
    (signed.collect contributions).WellSigned := by
  induction contributions generalizing signed with
  | nil => exact good
  | cons contribution rest ih =>
    rw [List.flatMap_cons] at accepted
    obtain ⟨first, later⟩ := List.forall_mem_append.mp accepted
    have same_id : (signed.after contribution).id = signed.id :=
      congrArg Proposal.id (proposal_after contribution)
    exact ih (good.after first) (same_id ▸ later)

/-! ### Beginnings -/

/-- How a transaction comes into being: by a first signature on an obtainable proposal, made with
the local keys of some seeds, or from a text. -/
inductive Begun : List Bytes32 → SignedTransaction → Prop
  | sign {proposal : Proposal} {signer : Party} {seeds : List Bytes32} {signed : SignedTransaction}
      (obtained : Obtainable (.proposal proposal))
      (made : proposal.sign signer (.ofSeeds seeds) = .ok signed) : Begun seeds signed
  | read {text : String} {signed : SignedTransaction}
      (decoded : Json.decode Wire.readSigned text = .ok signed) : Begun [] signed

theorem Begun.wellSigned {seeds : List Bytes32} (begun : Begun seeds signed)
    (accepted : ∀ seed ∈ seeds, AcceptsOwn seed (Signature.preimage signed.id)) :
    signed.WellSigned := by
  cases begun with
  | sign obtained made =>
    rename_i proposal signer
    have same_id : signed.id = (unsigned proposal).id :=
      congrArg Proposal.id (proposal_of_signAs made)
    rw [same_id] at accepted
    have bare : (unsigned proposal).WellSigned := wellSigned_of_empty obtained.sound rfl
    exact bare.signAs accepted made
  | read decoded =>
    have reads : Wire.unsignedForm.Reads signed := Json.Codec.reads_of_decode decoded
    exact wellSigned_of_empty (Wire.sound_of_reads_signed reads)
      (Wire.signatures_of_reads_signed reads)

/-- **Collecting signatures never stores a bad one.** However a transaction begins, and whatever is
contributed after that, each stored signature is that of a required signatory, made with its key and
valid for the id. A contribution that fails changes nothing. Verification accepts exactly the
transactions that are complete, refuses the others for the first of the missing signatories in the
order of parties, and never for a signature that is not valid. Of the scheme this takes that it
accepts its own signatures of this id under the seeds that were signed with. -/
theorem collect_verify {first : List Bytes32} {start : SignedTransaction} (begun : Begun first start)
    (contributions : List Contribution)
    (accepted : ∀ seed ∈ first ++ contributions.flatMap Contribution.seeds,
      AcceptsOwn seed (Signature.preimage start.id)) :
    let signed := start.collect contributions
    (∀ party signature, signed.signatures.get? party = some signature →
      signed.requires party ∧ signature.signer = party.key ∧
        signature.verifies party signed.id = true) ∧
    (∀ contribution error, signed.contribute contribution = .error error →
      signed.after contribution = signed) ∧
    (signed.verify = .ok () ↔ signed.isComplete = true) ∧
    (signed.isComplete = false → ∃ party,
      signed.requires party ∧ signed.signatures.get? party = none ∧
      (∀ other, signed.requires other → signed.signatures.get? other = none →
        other = party ∨ compare party other = .lt) ∧
      signed.verify = .error (.missingSignature party)) ∧
    ∀ party, signed.verify ≠ .error (.invalidSignature party) := by
  intro signed
  obtain ⟨at_first, later⟩ := List.forall_mem_append.mp accepted
  have good : signed.WellSigned := (begun.wellSigned at_first).collect later
  refine ⟨fun party signature found => ?_, fun contribution error failed => ?_, ?_, fun lacks => ?_,
    fun party refused => ?_⟩
  · obtain ⟨required, verifies⟩ := good.stored found
    exact ⟨required, Signature.signer_eq_of_verifies verifies, verifies⟩
  · rw [after, failed]
  · rw [good.verify_eq, isComplete]
    cases signed.missing <;> simp
  · cases absent : signed.missing with
    | nil =>
      rw [isComplete, absent] at lacks
      cases lacks
    | cons party rest =>
      have in_order := signed.pairwise_missing
      rw [absent] at in_order
      have listed : party ∈ signed.missing := absent ▸ List.mem_cons_self
      obtain ⟨required, unsigned⟩ := mem_missing.mp listed
      refine ⟨party, required, unsigned, fun other other_required other_unsigned => ?_, ?_⟩
      · have other_listed := mem_missing.mpr ⟨other_required, other_unsigned⟩
        rw [absent] at other_listed
        exact (List.mem_cons.mp other_listed).imp_right fun behind =>
          (List.pairwise_cons.mp in_order).1 other behind
      · rw [good.verify_eq, absent]
  · rw [good.verify_eq] at refused
    split at refused
    · cases refused
    · cases refused

end SignedTransaction

end Scheme

/-! The mint of the one signatory, signed with its seed, and then with signatures that are no good. -/

namespace Notary.GoldMint

open SignedTransaction (Begun Contribution)

def seed : Bytes32 := .replicate 2

theorem keyOf_seed : KeyStore.keyOf seed = issuer.key := by decide +kernel

theorem sign_seed :
    SignatureScheme.sign seed (Signature.preimage proposal.id) = signature.bytes := by
  rw [id_eq]
  decide +kernel

theorem verifies_signature : signature.verifies issuer proposal.id = true := by
  have required : signed.requires issuer := List.mem_singleton_self issuer
  obtain ⟨-, stored, found, verifies⟩ := SignedTransaction.isSignedBy_iff.mp
    (SignedTransaction.verify_eq_ok_iff.mp verified issuer required)
  cases (SortedMap.get?_insert_self _ _ _).symm.trans found
  exact verifies

theorem acceptsOwn_seed : AcceptsOwn seed (Signature.preimage proposal.id) :=
  KeyStore.acceptsOwn_of_verifies keyOf_seed sign_seed verifies_signature

theorem obtainable_proposal : Obtainable (.proposal proposal) := by
  have made : Token.create "GOLD" 5 issuer issuer [issuer] =
    .ok ⟨"GOLD", 5, issuer, issuer, [issuer]⟩ := rfl
  have bounded : TimeWindow.between opening closing = .ok ⟨opening, closing⟩ := rfl
  have valid : proposal.validate.map (fun () => proposal) = .ok proposal := by
    rw [acceptable]
    rfl
  exact .build (((Obtainable.newDraft.withNotary notary).withTimeWindow (.between bounded)).addOutput
    (.newToken made) |>.addCommand (.ofList .create [issuer])) valid

theorem sign_proposal : proposal.sign issuer (.ofSeeds [seed]) = .ok signed := by
  have held : (KeyStore.ofSeeds [seed]).seeds.get? issuer.key = some seed := by
    rw [← keyOf_seed]
    exact SortedMap.get?_insert_self _ _ _
  have required : (SignedTransaction.unsigned proposal).requires issuer :=
    List.mem_singleton_self issuer
  have signs := SignedTransaction.signAs_of_held required held
  rwa [show (SignedTransaction.unsigned proposal).id = proposal.id from rfl, sign_seed] at signs

theorem begun : Begun [seed] signed := .sign obtainable_proposal sign_proposal

/-- A signature of a stranger, one without bytes, and the right one once more. -/
def contributions : List Contribution :=
  [.brought notary signature, .brought issuer ⟨issuer.key, []⟩, .made issuer [seed]]

theorem acceptsOwn_contributions :
    ∀ known ∈ [seed] ++ contributions.flatMap Contribution.seeds,
      AcceptsOwn known (Signature.preimage signed.id) := by
  intro known listed
  have same : known = seed := by
    simpa [contributions, Contribution.seeds] using listed
  rw [same]
  exact acceptsOwn_seed

end Notary.GoldMint

open Notary.GoldMint SignedTransaction in
theorem SignedTransaction.collect_verify_mint :
    Begun [seed] signed ∧
    (∀ known ∈ [seed] ++ contributions.flatMap Contribution.seeds,
      AcceptsOwn known (Signature.preimage signed.id)) ∧
    (∀ party signature, (signed.collect contributions).signatures.get? party = some signature →
      (signed.collect contributions).requires party ∧ signature.signer = party.key ∧
        signature.verifies party (signed.collect contributions).id = true) ∧
    ((signed.collect contributions).verify = .ok () ↔
      (signed.collect contributions).isComplete = true) := by
  obtain ⟨stored, -, verified_iff, -, -⟩ :=
    collect_verify begun contributions acceptsOwn_contributions
  exact ⟨begun, acceptsOwn_contributions, stored, verified_iff⟩

end TokenLedger
