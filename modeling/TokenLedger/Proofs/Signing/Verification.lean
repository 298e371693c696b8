import TokenLedger.Signing.SignedTransaction
/-!
What verification of a signed transaction accepts, and how it refuses.

* `verify_eq_ok_iff`: a transaction verifies exactly when every required signatory signed its
  content.
* `exists_signature_of_verify`: each of them signed with its own key.
* `verify_eq_error`: a refusal names a required signatory, whose signature is missing or not valid.
-/

namespace TokenLedger

variable [SignatureScheme]

/-- A signature that verifies for a party was made with the party's key. -/
theorem Signature.signer_eq_of_verifies {signature : Signature} {party : Party}
    {id : TransactionId} (verifies : signature.verifies party id = true) :
    signature.signer = party.key := by
  simp only [Signature.verifies, Bool.and_eq_true, beq_iff_eq] at verifies
  exact verifies.1.1.1

namespace SignedTransaction

variable {signed : SignedTransaction} {party : Party}

omit [SignatureScheme] in
theorem mem_missing :
    party ∈ signed.missing ↔ signed.requires party ∧ signed.signatures.get? party = none := by
  rw [missing, List.mem_filter, Bool.not_eq_true', SortedMap.contains, Option.isSome_eq_false_iff,
    Option.isNone_iff_eq_none]
  rfl

theorem isSignedBy_iff :
    signed.isSignedBy party = true ↔
      signed.proposal.contentId = signed.id ∧ ∃ signature,
        signed.signatures.get? party = some signature ∧
          signature.verifies party signed.id = true := by
  unfold isSignedBy
  cases signed.signatures.get? party with
  | none => simp
  | some signature => simp

/-- **A transaction verifies exactly when every required signatory signed its content.** -/
theorem verify_eq_ok_iff :
    signed.verify = .ok () ↔ ∀ party, signed.requires party → signed.isSignedBy party = true := by
  constructor
  · intro verified party required
    unfold verify at verified
    split at verified
    · contradiction
    · split at verified
      · contradiction
      · rename_i none_found
        have signs := List.find?_eq_none.mp none_found party required
        simpa using signs
  · intro signs
    have nobody_missing : signed.missing = [] := by
      refine List.eq_nil_iff_forall_not_mem.mpr fun party absent => ?_
      obtain ⟨required, unsigned⟩ := mem_missing.mp absent
      obtain ⟨-, signature, found, -⟩ := isSignedBy_iff.mp (signs party required)
      rw [unsigned] at found
      cases found
    have nobody_invalid : signed.proposal.requiredSignatories.toList.find?
        (fun party => !signed.isSignedBy party) = none := by
      refine List.find?_eq_none.mpr fun party required => ?_
      rw [signs party required]
      decide
    unfold verify
    rw [nobody_missing]
    simp only
    rw [nobody_invalid]

/-- A signatory that a verified transaction requires has a signature there, made with its own key,
that verifies over the transaction's id. -/
theorem exists_signature_of_verify (verified : signed.verify = .ok ())
    (required : signed.requires party) :
    ∃ signature, signed.signatures.get? party = some signature ∧
      signature.signer = party.key ∧ signature.verifies party signed.id = true := by
  have signs := verify_eq_ok_iff.mp verified party required
  obtain ⟨-, signature, found, verifies⟩ := isSignedBy_iff.mp signs
  exact ⟨signature, found, Signature.signer_eq_of_verifies verifies, verifies⟩

/-- **A refusal names a required signatory**, whose signature is missing or not valid. -/
theorem verify_eq_error {reason : RejectionReason} (failed : signed.verify = .error reason) :
    ∃ party, signed.requires party ∧
      (reason = .missingSignature party ∨ reason = .invalidSignature party) := by
  unfold verify at failed
  split at failed
  · rename_i party rest missing_eq
    have absent : party ∈ signed.missing := missing_eq ▸ List.mem_cons_self
    exact ⟨party, (mem_missing.mp absent).1, Or.inl (Except.error.inj failed).symm⟩
  · split at failed
    · rename_i party found
      exact ⟨party, List.mem_of_find?_eq_some found, Or.inr (Except.error.inj failed).symm⟩
    · contradiction

end SignedTransaction

end TokenLedger
