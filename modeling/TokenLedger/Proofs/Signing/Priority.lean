import Mathlib.Logic.Basic
import TokenLedger.Proofs.Signing.Verification
/-!
What verification finds, and whom it names.

Whatever signatures a transaction carries, good or bad, of parties that have to sign and of others,
verification has one answer. `Finding` lists what there is to find, in the order in which it counts:

* a required signatory without a signature, the first of them, whatever the signatures of those
  before it are worth;
* an id that is not the hash of the content, for which the first required signatory is named;
* a signature with a flaw, of the first required signatory that has such a signature.

The set of the required signatories is gone through twice, each time for the first member with some
property (`SortedSet.find?_eq_some_iff_isFirst`). `verify_exact` is that the answer is the finding,
and that the signatures of parties that need not sign have no part in it.
-/

namespace TokenLedger

/-! ### First members -/

namespace SortedSet

variable {α : Type} [Ord α] {set : SortedSet α} {has also : α → Prop} {test : α → Bool}
  {member other : α}

/-- **The first member with a property**, in the order of the set. -/
structure IsFirst (set : SortedSet α) (has : α → Prop) (member : α) : Prop where
  mem : member ∈ set
  holds : has member
  least : ∀ other ∈ set, has other → other = member ∨ compare member other = .lt

theorem IsFirst.congr (same : ∀ member ∈ set, has member ↔ also member) :
    set.IsFirst has member ↔ set.IsFirst also member := by
  constructor
  · rintro ⟨mem, holds, least⟩
    exact ⟨mem, (same member mem).mp holds, fun other listed other_holds =>
      least other listed ((same other listed).mpr other_holds)⟩
  · rintro ⟨mem, holds, least⟩
    exact ⟨mem, (same member mem).mpr holds, fun other listed other_holds =>
      least other listed ((same other listed).mp other_holds)⟩

theorem IsFirst.unique [Std.TransOrd α] (first : set.IsFirst has member)
    (second : set.IsFirst has other) : member = other := by
  rcases second.least member first.mem first.holds with same | above
  · exact same
  rcases first.least other second.mem second.holds with same | below
  · exact same.symm
  · have around := Std.TransCmp.lt_trans below above
    simp at around

theorem isFirst_of_find? (found : set.toList.find? test = some member) :
    set.IsFirst (fun candidate => test candidate = true) member := by
  obtain ⟨passes, before, after, split, failed⟩ := List.find?_eq_some_iff_append.mp found
  have increasing := set.increasing
  rw [split] at increasing
  have below := (List.pairwise_cons.mp (List.pairwise_append.mp increasing).2.1).1
  refine ⟨List.mem_of_find?_eq_some found, passes, fun other listed also_passes => ?_⟩
  rw [mem_def, split, List.mem_append, List.mem_cons] at listed
  rcases listed with earlier | same | later
  · have fails := failed other earlier
    rw [also_passes] at fails
    cases fails
  · exact Or.inl same
  · exact Or.inr (below other later)

/-- The first member that passes a test is what a search through the set finds. -/
theorem find?_eq_some_iff_isFirst [Std.TransOrd α] :
    set.toList.find? test = some member ↔
      set.IsFirst (fun candidate => test candidate = true) member := by
  refine ⟨isFirst_of_find?, fun first => ?_⟩
  cases found : set.toList.find? test with
  | none => exact absurd first.holds (List.find?_eq_none.mp found member first.mem)
  | some other => rw [(isFirst_of_find? found).unique first]

end SortedSet

variable [SignatureScheme]

/-! ### Flaws -/

/-- What can be wrong with a signature that a party is said to have made of an id. -/
inductive Signature.Flawed (signature : Signature) (party : Party) (id : TransactionId) : Prop
  /-- It was made with another key than the party's. -/
  | foreign (other : signature.signer ≠ party.key)
  /-- The party's key is no key at all; of Ed25519, it encodes no point of the curve. -/
  | noKey (worthless : SignatureScheme.isKey party.key.bytes = false)
  | length (wrong : signature.bytes.length ≠ signatureLength)
  /-- The scheme does not accept it for the tag and the id. -/
  | refused (unaccepted : SignatureScheme.accepts party.key.bytes
      (tag ++ id.bytes.toList) signature.bytes = false)

/-- A signature verifies if there is nothing wrong with it. -/
theorem Signature.verifies_iff {signature : Signature} {party : Party} {id : TransactionId} :
    signature.verifies party id = true ↔ ¬ signature.Flawed party id := by
  rw [verifies, Bool.and_eq_true, Bool.and_eq_true, Bool.and_eq_true, beq_iff_eq, beq_iff_eq]
  constructor
  · rintro ⟨⟨⟨own, isKey⟩, length_eq⟩, accepted⟩ flaw
    cases flaw with
    | foreign other => exact other own
    | noKey worthless => exact Bool.false_ne_true (worthless.symm.trans isKey)
    | length wrong => exact wrong length_eq
    | refused unaccepted => exact Bool.false_ne_true (unaccepted.symm.trans accepted)
  · intro flawless
    refine ⟨⟨⟨?_, ?_⟩, ?_⟩, ?_⟩
    · exact not_not.mp fun other => flawless (.foreign other)
    · exact Bool.of_not_eq_false fun worthless => flawless (.noKey worthless)
    · exact not_not.mp fun wrong => flawless (.length wrong)
    · exact Bool.of_not_eq_false fun unaccepted => flawless (.refused unaccepted)

namespace SignedTransaction

/-- A party without a signature. -/
def Unsigned (signed : SignedTransaction) (party : Party) : Prop :=
  signed.signatures.get? party = none

/-- A party whose signature has a flaw. -/
def Invalid (signed : SignedTransaction) (party : Party) : Prop :=
  ∃ signature, signed.signatures.get? party = some signature ∧ signature.Flawed party signed.id

/-- **What there is to find** about the signatures of a transaction, and the answer to it. The cases
exclude each other, and one of them always holds (`finding_verify`). A wrong id is found only where
somebody has to sign. -/
inductive Finding (signed : SignedTransaction) : Except RejectionReason Unit → Prop
  | missing {party : Party}
      (first : signed.proposal.requiredSignatories.IsFirst signed.Unsigned party) :
      Finding signed (.error (.missingSignature party))
  | misnamed {party : Party} (complete : ∀ party, signed.requires party → ¬ signed.Unsigned party)
      (misnamed : signed.proposal.contentId ≠ signed.id)
      (first : signed.proposal.requiredSignatories.IsFirst (fun _ => True) party) :
      Finding signed (.error (.invalidSignature party))
  | misnamed_unrequired (misnamed : signed.proposal.contentId ≠ signed.id)
      (nobody : ∀ party, ¬ signed.requires party) : Finding signed (.ok ())
  | invalid {party : Party} (complete : ∀ party, signed.requires party → ¬ signed.Unsigned party)
      (identified : signed.proposal.contentId = signed.id)
      (first : signed.proposal.requiredSignatories.IsFirst signed.Invalid party) :
      Finding signed (.error (.invalidSignature party))
  | valid (complete : ∀ party, signed.requires party → ¬ signed.Unsigned party)
      (identified : signed.proposal.contentId = signed.id)
      (flawless : ∀ party, signed.requires party → ¬ signed.Invalid party) :
      Finding signed (.ok ())

variable {signed : SignedTransaction} {party : Party}

/-! ### The two passes -/

omit [SignatureScheme] in
/-- The first pass is for a signature that is missing. -/
theorem missing_head?_eq_some_iff :
    signed.missing.head? = some party ↔
      signed.proposal.requiredSignatories.IsFirst signed.Unsigned party := by
  rw [missing, List.head?_filter, SortedSet.find?_eq_some_iff_isFirst]
  refine SortedSet.IsFirst.congr fun member _ => ?_
  rw [Bool.not_eq_true', SortedMap.contains, Option.isSome_eq_false_iff, Option.isNone_iff_eq_none]
  rfl

omit [SignatureScheme] in
theorem missing_eq_nil_iff :
    signed.missing = [] ↔ ∀ party, signed.requires party → ¬ signed.Unsigned party := by
  rw [List.eq_nil_iff_forall_not_mem]
  simp only [mem_missing, not_and]
  rfl

/-- A party that has a signature signed the content if the id is the hash of the content and there is
nothing wrong with the signature. -/
theorem isSignedBy_iff_of_has (has : ¬ signed.Unsigned party) :
    signed.isSignedBy party = true ↔
      signed.proposal.contentId = signed.id ∧ ¬ signed.Invalid party := by
  obtain ⟨signature, found⟩ := Option.ne_none_iff_exists'.mp has
  simp only [isSignedBy_iff, Invalid, found, Option.some.injEq, exists_eq_left',
    Signature.verifies_iff]

/-- The second pass is for a signature that does not count. -/
theorem verify_of_complete (complete : signed.missing = []) :
    signed.verify = match signed.proposal.requiredSignatories.toList.find?
        fun party => !signed.isSignedBy party with
      | some party => .error (.invalidSignature party)
      | none => .ok () := by
  unfold verify
  split
  · rename_i somebody
    rw [complete] at somebody
    cases somebody
  · rfl

theorem verify_eq_missingSignature_iff :
    signed.verify = .error (.missingSignature party) ↔
      signed.proposal.requiredSignatories.IsFirst signed.Unsigned party := by
  rw [← missing_head?_eq_some_iff]
  cases absent : signed.missing with
  | nil =>
    rw [verify_of_complete absent]
    split <;> simp
  | cons first rest =>
    unfold verify
    rw [absent]
    simp

variable (complete : ∀ party, signed.requires party → ¬ signed.Unsigned party)

include complete in
theorem verify_eq_ok_iff_of_complete :
    signed.verify = .ok () ↔ ∀ party, signed.requires party →
      signed.proposal.contentId = signed.id ∧ ¬ signed.Invalid party := by
  rw [verify_eq_ok_iff]
  exact forall_congr' fun party => forall_congr' fun required =>
    isSignedBy_iff_of_has (complete party required)

include complete in
/-- If nobody is missing, the answer is about the first party whose signature does not count. -/
theorem verify_eq_invalidSignature_iff :
    signed.verify = .error (.invalidSignature party) ↔
      signed.proposal.requiredSignatories.IsFirst (fun party =>
        signed.proposal.contentId ≠ signed.id ∨ signed.Invalid party) party := by
  have fails : ∀ member ∈ signed.proposal.requiredSignatories,
      (!signed.isSignedBy member) = true ↔
        signed.proposal.contentId ≠ signed.id ∨ signed.Invalid member := fun member required => by
    rw [Bool.not_eq_true', ← Bool.not_eq_true, isSignedBy_iff_of_has (complete member required),
      not_and_or, not_not]
  rw [← SortedSet.IsFirst.congr fails, ← SortedSet.find?_eq_some_iff_isFirst,
    verify_of_complete (missing_eq_nil_iff.mpr complete)]
  cases signed.proposal.requiredSignatories.toList.find? fun party => !signed.isSignedBy party with
  | none => simp
  | some found => simp

/-! ### Findings -/

/-- A finding is the answer. -/
theorem Finding.verify_eq {result : Except RejectionReason Unit} (finding : signed.Finding result) :
    signed.verify = result := by
  cases finding with
  | missing first => exact verify_eq_missingSignature_iff.mpr first
  | misnamed complete misnamed first =>
    refine (verify_eq_invalidSignature_iff complete).mpr ((SortedSet.IsFirst.congr ?_).mp first)
    exact fun _ _ => iff_of_true trivial (Or.inl misnamed)
  | misnamed_unrequired misnamed nobody =>
    exact verify_eq_ok_iff.mpr fun party required => absurd required (nobody party)
  | invalid complete identified first =>
    refine (verify_eq_invalidSignature_iff complete).mpr ((SortedSet.IsFirst.congr ?_).mp first)
    exact fun _ _ => (or_iff_right (not_not_intro identified)).symm
  | valid complete identified flawless =>
    exact (verify_eq_ok_iff_of_complete complete).mpr fun party required =>
      ⟨identified, flawless party required⟩

/-- There is always a finding. -/
theorem finding_verify (signed : SignedTransaction) : signed.Finding signed.verify := by
  cases absent : signed.missing.head? with
  | some party =>
    have first := missing_head?_eq_some_iff.mp absent
    rw [verify_eq_missingSignature_iff.mpr first]
    exact .missing first
  | none =>
    have nobody_missing := List.head?_eq_none_iff.mp absent
    have complete := missing_eq_nil_iff.mp nobody_missing
    have answer := verify_of_complete nobody_missing
    split at answer
    · have first := (verify_eq_invalidSignature_iff complete).mp answer
      rw [answer]
      by_cases identified : signed.proposal.contentId = signed.id
      · exact .invalid complete identified ((SortedSet.IsFirst.congr fun _ _ =>
          or_iff_right (not_not_intro identified)).mp first)
      · exact .misnamed complete identified ((SortedSet.IsFirst.congr fun _ _ =>
          iff_of_true (Or.inl identified) trivial).mp first)
    · have counts := (verify_eq_ok_iff_of_complete complete).mp answer
      rw [answer]
      by_cases identified : signed.proposal.contentId = signed.id
      · exact .valid complete identified fun party required => (counts party required).2
      · exact .misnamed_unrequired identified fun party required =>
          identified (counts party required).1

/-- The entries of parties that need not sign have no part in the answer. -/
theorem verify_congr {others : SortedMap Party Signature}
    (same : ∀ party, signed.requires party →
      others.get? party = signed.signatures.get? party) :
    verify ⟨signed.proposal, others⟩ = signed.verify := by
  have both_missing : missing ⟨signed.proposal, others⟩ = signed.missing :=
    List.filter_congr fun party required => by
      rw [SortedMap.contains, SortedMap.contains, same party required]
  have both_find : signed.proposal.requiredSignatories.toList.find?
        (fun party => !isSignedBy ⟨signed.proposal, others⟩ party) =
      signed.proposal.requiredSignatories.toList.find? fun party => !signed.isSignedBy party := by
    rw [← List.head?_filter, ← List.head?_filter]
    refine congrArg List.head? (List.filter_congr fun party required => ?_)
    unfold isSignedBy
    rw [same party required]
    rfl
  unfold verify
  rw [both_missing, both_find]

/-- **Verification answers with what there is to find.** For every transaction, with any signatures
under any parties, the answer is the one that belongs to the finding: for the first required
signatory without a signature, else for a wrong id, else for the first required signatory whose
signature has a flaw, else that all is well. Signatures of parties that need not sign never change
it. -/
theorem verify_exact (signed : SignedTransaction) :
    (∀ result, signed.verify = result ↔ signed.Finding result) ∧
    ∀ others : SortedMap Party Signature,
      (∀ party, signed.requires party → others.get? party = signed.signatures.get? party) →
      verify ⟨signed.proposal, others⟩ = signed.verify := by
  refine ⟨fun result => ⟨?_, Finding.verify_eq⟩, fun others => verify_congr⟩
  rintro rfl
  exact finding_verify signed

end SignedTransaction

end TokenLedger
