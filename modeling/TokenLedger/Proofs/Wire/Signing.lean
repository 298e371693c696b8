import TokenLedger.Proofs.Signing.Collecting
import TokenLedger.Proofs.Wire.Proposal
/-!
Signatures do not survive the wire.

The signatures of a transaction are the entries of an object whose names would be parties, and a
party is no string. So the object is written only if it has no entries
(`writeSigned_eq_error_iff`), and a transaction goes over the wire and comes back exactly if nobody
signed it and its proposal comes back (`roundTrip_iff`).

Signing is what makes a transaction, and no contribution takes a signature away
(`SignedTransaction.contains_collect`): whatever was begun by a signature never has a text, though
each of its parts has one (`SignedTransaction.collect_has_no_text`).
-/

namespace TokenLedger

open Json (Codec decode)

/-! ### What has a text -/

namespace Wire

variable {signed : SignedTransaction}

/-- A signature is read back, whatever its bytes are. -/
theorem survives_signature (value : Signature) : signature.Survives value := by
  refine Codec.Survives.convert (Codec.survives_record (by decide) ?_) rfl
  exact ⟨survives_ledgerKey value.signer,
    Codec.survives_list fun byte _ => Codec.survives_byte byte, trivial⟩

theorem writeSigned_of_empty (bare : signed.signatures = .empty) :
    writeSigned signed = .ok (unsignedForm.write signed) := by
  unfold writeSigned
  rw [bare]
  rfl

/-- **Writing fails exactly if there is a signature.** -/
theorem writeSigned_eq_error_iff :
    writeSigned signed = .error .keyNotText ↔ signed.signatures ≠ .empty := by
  constructor
  · intro failed bare
    rw [writeSigned_of_empty bare] at failed
    cases failed
  · intro collected
    refine if_neg fun no_entries => collected ?_
    obtain ⟨proposal, entries, increasing⟩ := signed
    cases List.isEmpty_iff.mp no_entries
    rfl

/-- Without signatures, a transaction survives with its proposal. -/
theorem survives_unsigned (survives : proposal.Survives signed.proposal)
    (bare : signed.signatures = .empty) : unsignedForm.Survives signed := by
  refine Codec.Survives.convert (Codec.survives_record (by decide) ?_) rfl
  refine ⟨survives, ⟨?_, .object (fun _ listed => absurd listed List.not_mem_nil)⟩, trivial⟩
  rw [bare]
  rfl

/-- **A transaction is written and read back exactly if nobody signed it**, and its proposal is
sound and has the leap seconds of its window at the end of a minute. -/
theorem roundTrip_iff :
    (∃ json, writeSigned signed = .ok json ∧ decode readSigned json.print = .ok signed) ↔
      signed.signatures = .empty ∧ signed.proposal.Sound ∧
        signed.proposal.timeWindow.LeapsAtMinuteEnd := by
  constructor
  · rintro ⟨json, -, decoded⟩
    have reads : unsignedForm.Reads signed := Codec.reads_of_decode decoded
    exact ⟨signatures_of_reads_signed reads, sound_of_reads_signed reads,
      leapsAtMinuteEnd_of_reads_proposal (proposal_of_reads_signed reads)⟩
  · rintro ⟨bare, sound, leaps_at_end⟩
    have survives := survives_proposal sound leaps_at_end
    exact ⟨_, writeSigned_of_empty bare, (survives_unsigned survives bare).decode_print⟩

end Wire

namespace SignedTransaction

/-! ### Signatures stay -/

variable {signed : SignedTransaction} {party : Party}

theorem contains_attach {signer : Party} {signature : Signature} :
    (signed.attach signer signature).signatures.contains party = true ↔
      party = signer ∨ signed.signatures.contains party = true := by
  unfold attach SortedMap.contains
  rw [SortedMap.get?_insert]
  split_ifs with same <;> simp [same]

variable [SignatureScheme]

/-- A contribution takes no signature away. -/
theorem contains_after (holds : signed.signatures.contains party = true)
    (contribution : Contribution) :
    (signed.after contribution).signatures.contains party = true := by
  unfold after
  split
  · rename_i next taken
    cases contribution with
    | made =>
      obtain ⟨-, signature, -, attached⟩ := exists_attach_of_signAs taken
      rw [attached]
      exact contains_attach.mpr (Or.inr holds)
    | brought =>
      obtain ⟨-, -, attached⟩ := eq_attach_of_add taken
      rw [attached]
      exact contains_attach.mpr (Or.inr holds)
  · exact holds

/-- Contributions take no signature away. -/
theorem contains_collect (holds : signed.signatures.contains party = true)
    (contributions : List Contribution) :
    (signed.collect contributions).signatures.contains party = true := by
  induction contributions generalizing signed with
  | nil => exact holds
  | cons contribution rest ih => exact ih (contains_after holds contribution)

/-- What was begun by a signature keeps it. -/
theorem contains_of_sign {proposal : Proposal} {signer : Party} {keys : KeyStore}
    (made : proposal.sign signer keys = .ok signed) (contributions : List Contribution) :
    (signed.collect contributions).signatures.contains signer = true := by
  obtain ⟨-, signature, -, attached⟩ := exists_attach_of_signAs made
  refine contains_collect ?_ contributions
  rw [attached]
  exact contains_attach.mpr (Or.inl rfl)

theorem proposal_collect (contributions : List Contribution) :
    (signed.collect contributions).proposal = signed.proposal := by
  induction contributions generalizing signed with
  | nil => rfl
  | cons contribution rest ih => exact ih.trans (proposal_after contribution)

/-! ### What is received -/

/-- Of a transaction that somebody has to sign, what is read from a text does not verify. -/
theorem verify_of_decode {text : String} {received : SignedTransaction}
    (decoded : decode Wire.readSigned text = .ok received) (required : received.requires party) :
    ∃ first, received.requires first ∧ received.verify = .error (.missingSignature first) := by
  have reads : Wire.unsignedForm.Reads received := Codec.reads_of_decode decoded
  have bare : received.signatures = .empty := Wire.signatures_of_reads_signed reads
  have good := wellSigned_of_empty (Wire.sound_of_reads_signed reads) bare
  have absent : party ∈ received.missing := mem_missing.mpr ⟨required, by rw [bare]; rfl⟩
  cases listed : received.missing with
  | nil =>
    rw [listed] at absent
    cases absent
  | cons first rest =>
    have in_list : first ∈ received.missing := listed ▸ List.mem_cons_self
    refine ⟨first, (mem_missing.mp in_list).1, ?_⟩
    rw [good.verify_eq, listed]

/-- **What is signed has no text.** However a proposal that can be obtained is signed, and whatever
is contributed after the first signature, the transaction cannot be written; of the transactions
with its proposal only the one that nobody signed is written and read back; and what is read with
its proposal is another transaction, one without signatures, which is refused for the first that is
missing. Yet the proposal and every party and every signature that is stored are read back from
their own texts; the proposal, and the transaction that nobody signed, if the leap seconds of the
window are at the end of a minute. -/
theorem collect_has_no_text {proposal : Proposal} {signer : Party} {keys : KeyStore}
    {start : SignedTransaction} (obtained : Obtainable (.proposal proposal))
    (made : proposal.sign signer keys = .ok start) (contributions : List Contribution) :
    let signed := start.collect contributions
    Wire.writeSigned signed = .error .keyNotText ∧
    (∀ other : SignedTransaction, other.proposal = proposal →
      ((∃ json, Wire.writeSigned other = .ok json ∧
          decode Wire.readSigned json.print = .ok other) ↔
        other.signatures = .empty ∧ proposal.timeWindow.LeapsAtMinuteEnd)) ∧
    (∀ text received, decode Wire.readSigned text = .ok received →
      received.proposal = proposal → received ≠ signed ∧ received.signatures = .empty ∧
        ∃ party, received.requires party ∧ received.verify = .error (.missingSignature party)) ∧
    (signed.proposal = proposal ∧
      (decode Wire.proposal.read (Wire.proposal.write proposal).print = .ok proposal ↔
        proposal.timeWindow.LeapsAtMinuteEnd)) ∧
    ∀ party signature, signed.signatures.get? party = some signature →
      decode Wire.party.read (Wire.party.write party).print = .ok party ∧
        decode Wire.signature.read (Wire.signature.write signature).print = .ok signature := by
  intro signed
  have required : signer ∈ proposal.requiredSignatories := (exists_attach_of_signAs made).1
  have collected : signed.signatures ≠ .empty := fun bare => by
    have kept : signed.signatures.contains signer = true := contains_of_sign made contributions
    rw [bare] at kept
    cases kept
  refine ⟨Wire.writeSigned_eq_error_iff.mpr collected, fun other same => ?_,
    fun text received decoded same => ?_,
    ⟨?_, ?_⟩, fun party signature _ => ?_⟩
  · have sound : other.proposal.Sound := same ▸ obtained.sound
    rw [Wire.roundTrip_iff, and_iff_right sound, same]
  · have bare : received.signatures = .empty :=
      Wire.signatures_of_reads_signed (Codec.reads_of_decode decoded)
    have still_required : received.requires signer := by
      unfold requires
      rw [same]
      exact required
    exact ⟨fun equal => collected (equal ▸ bare), bare, verify_of_decode decoded still_required⟩
  · exact (proposal_collect contributions).trans (proposal_of_signAs made)
  · have sound : proposal.Sound := obtained.sound
    rw [Wire.decode_print_eq_ok_iff, and_iff_right sound]
  · exact ⟨(Wire.survives_party party).decode_print,
      (Wire.survives_signature signature).decode_print⟩

end SignedTransaction

open SignedTransaction (collect_has_no_text) in
theorem Notary.GoldMint.collect_has_no_text_mint :
    Obtainable (.proposal proposal) ∧ proposal.sign issuer (.ofSeeds [seed]) = .ok signed ∧
      Wire.writeSigned (signed.collect contributions) = .error .keyNotText ∧
      ∀ text, decode Wire.readSigned text ≠ .ok (signed.collect contributions) := by
  obtain ⟨unwritable, -, unreadable, ⟨same, -⟩, -⟩ :=
    collect_has_no_text obtainable_proposal sign_proposal contributions
  exact ⟨obtainable_proposal, sign_proposal, unwritable, fun text decoded =>
    (unreadable text _ decoded same).1 rfl⟩

/-- **A transaction that is signed and verifies, and has no text.** -/
theorem Notary.GoldMint.verified_but_unwritable :
    Obtainable (.proposal proposal) ∧ proposal.sign issuer (.ofSeeds [seed]) = .ok signed ∧
      signed.verify = .ok () ∧ Wire.writeSigned signed = .error .keyNotText :=
  ⟨obtainable_proposal, sign_proposal, verified, rfl⟩

end TokenLedger
