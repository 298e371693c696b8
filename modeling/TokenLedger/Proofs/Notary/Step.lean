import Mathlib.Tactic.SplitIfs
import TokenLedger.Notary.Service
import TokenLedger.Proofs.Notary.ConsumedStates
/-!
What one submission can do to a notary.

A submission brings a signed transaction and its observers at some time. The notary's answer and its
state afterwards take one of five forms, one for each way through its checks (`Step`), and no other
(`step`); everything that is proved about notaries later is proved by cases on them:

* no verdict, because the transaction names another notary or its proposal is not acceptable; the
  notary is as before;
* a rejection, for one of the reasons of `Refusal`; at most the last rejection changes;
* the replay of a verdict on a transaction that was finalized before; the notary is as before;
* a fresh finalization, which consumes the inputs and remembers the transaction.

What the notary asks whatever the time and whatever it remembers is `Admissible`.
-/

namespace TokenLedger

/-- A signed transaction that arrives at a notary, when it does, and who is to hear of it. -/
structure Submission where
  now : Instant
  signed : SignedTransaction
  observers : List Party
deriving DecidableEq

namespace Notary

/-! ### Remembering a verdict -/

section Remember

theorem remember_of_contains {notary : Notary} {record : NotaryRecord}
    (known : notary.finalized.contains record.transaction.id = true) :
    notary.remember record = notary := by
  simp only [remember, known, if_true]

theorem remember_of_isFinalized {notary : Notary} {record : NotaryRecord}
    (new : notary.finalized.get? record.transaction.id = none)
    (finalized : record.outcome.isFinalized = true) :
    notary.remember record =
      { notary with finalized := notary.finalized.insert record.transaction.id record } := by
  have unknown : notary.finalized.contains record.transaction.id = false := by
    rw [SortedMap.contains, new, Option.isSome_none]
  simp [remember, unknown, finalized]

theorem remember_of_rejected {notary : Notary} {record : NotaryRecord}
    (new : notary.finalized.get? record.transaction.id = none)
    (rejected : record.outcome.isFinalized = false) :
    notary.remember record = { notary with lastRejection := some record } := by
  have unknown : notary.finalized.contains record.transaction.id = false := by
    rw [SortedMap.contains, new, Option.isSome_none]
  simp [remember, unknown, rejected]

@[simp] theorem identity_remember (notary : Notary) (record : NotaryRecord) :
    (notary.remember record).identity = notary.identity := by
  simp only [remember]
  split_ifs <;> rfl

@[simp] theorem consumed_remember (notary : Notary) (record : NotaryRecord) :
    (notary.remember record).consumed = notary.consumed := by
  simp only [remember]
  split_ifs <;> rfl

/-- A rejection leaves the finalized records alone. -/
theorem finalized_remember_of_not_isFinalized {notary : Notary} {record : NotaryRecord}
    (rejected : record.outcome.isFinalized = false) :
    (notary.remember record).finalized = notary.finalized := by
  simp only [remember, rejected, Bool.false_eq_true, if_false]
  split_ifs <;> rfl

/-- The last rejection is the one from before, or the new record if that is no finalized one. -/
theorem lastRejection_remember {notary : Notary} {record last : NotaryRecord}
    (found : (notary.remember record).lastRejection = some last) :
    notary.lastRejection = some last ∨ record = last ∧ record.outcome.isFinalized = false := by
  simp only [remember] at found
  split_ifs at found with known finalized
  · exact Or.inl found
  · exact Or.inl found
  · exact Or.inr ⟨Option.some.inj found, Bool.not_eq_true _ ▸ finalized⟩

/-- **Finalized records are never overwritten.** -/
theorem get?_finalized_remember {notary : Notary} {record earlier : NotaryRecord}
    {id : TransactionId} (found : notary.finalized.get? id = some earlier) :
    (notary.remember record).finalized.get? id = some earlier := by
  by_cases known : notary.finalized.contains record.transaction.id = true
  · rw [remember_of_contains known]
    exact found
  · have different : id ≠ record.transaction.id := fun same => by
      rw [SortedMap.contains, ← same, found] at known
      exact known rfl
    simp only [remember]
    split_ifs
    · exact (SortedMap.get?_insert_of_ne different _ _).trans found
    · exact found

/-- A finalized record was there before, or it is the new one. -/
theorem eq_of_get?_finalized_remember {notary : Notary} {record later : NotaryRecord}
    {id : TransactionId} (found : (notary.remember record).finalized.get? id = some later) :
    notary.finalized.get? id = some later ∨ record.transaction.id = id ∧ record = later := by
  simp only [remember] at found
  split_ifs at found with known finalized
  · exact Or.inl found
  · rw [SortedMap.get?_insert] at found
    split_ifs at found with same
    · exact Or.inr ⟨same.symm, Option.some.inj found⟩
    · exact Or.inl found
  · exact Or.inl found

/-- Of a transaction that is not finalized the last rejection is remembered, if it was its own. -/
theorem record?_of_not_finalized {notary : Notary} {id : TransactionId} {last : NotaryRecord}
    (unseen : notary.finalized.get? id = none) (rejected : notary.lastRejection = some last) :
    notary.record? id = if last.transaction.id = id then some last else none := by
  rw [record?, unseen, rejected]
  simp only [Option.filter_some, beq_iff_eq]

/-- A rejection of a transaction that is not finalized is remembered. -/
theorem record?_remember_of_rejected {notary : Notary} {record : NotaryRecord}
    (new : notary.finalized.get? record.transaction.id = none)
    (rejected : record.outcome.isFinalized = false) :
    (notary.remember record).record? record.transaction.id = some record := by
  have superseded := remember_of_rejected new rejected
  have unseen : (notary.remember record).finalized.get? record.transaction.id = none := by
    rw [superseded]
    exact new
  rw [record?_of_not_finalized unseen (by rw [superseded]), if_pos rfl]

/-- What is replayed is a finalization. -/
theorem isFinalized_of_finalized? {notary : Notary} {id : TransactionId} {record : NotaryRecord}
    (found : notary.finalized? id = some record) : record.outcome.isFinalized = true :=
  (Option.filter_eq_some_iff.mp found).2

/-- The verdict of a finalized record is the one that is remembered. -/
theorem outcome?_of_finalized? {notary : Notary} {id : TransactionId} {record : NotaryRecord}
    (found : notary.finalized? id = some record) : notary.outcome? id = some record.outcome := by
  obtain ⟨remembered, -⟩ := Option.filter_eq_some_iff.mp found
  rw [outcome?, remembered, Option.map_some]

end Remember

variable [SignatureScheme]

/-! ### The forms of a step -/

/-- The answer to a submission. -/
def answer (notary : Notary) (submission : Submission) : Except NotaryError Outcome :=
  (notary.notarise submission.now submission.signed submission.observers).1

/-- The notary after a submission. -/
def after (notary : Notary) (submission : Submission) : Notary :=
  (notary.notarise submission.now submission.signed submission.observers).2

/-- The notary after it finalized what was brought: the inputs are consumed, the transaction is
remembered with its observers. -/
def finalize (notary : Notary) (submission : Submission) : Notary :=
  { notary with
      consumed := notary.consumed.mark submission.signed.proposal.inputRefs
        submission.signed.id }.remember
    ⟨.finalized submission.signed.id, submission.signed, submission.observers⟩

omit [SignatureScheme] in
/-- Finalizing makes the transaction the consumer of its inputs, and of nothing else. -/
theorem consumer?_finalize (notary : Notary) (submission : Submission) (state : StateRef) :
    (notary.finalize submission).consumer? state =
      if state ∈ submission.signed.proposal.inputRefs then some submission.signed.id
      else notary.consumer? state := by
  rw [consumer?, finalize, consumed_remember, ConsumedStates.consumer?_mark, consumer?]

/-- What the notary of this name asks of a transaction whatever the time and whatever was finalized
before: it is addressed to it, acceptable, and signed by everyone who has to. -/
structure Admissible (identity : Party) (signed : SignedTransaction) : Prop where
  addressed : signed.proposal.notary = identity
  acceptable : signed.proposal.validate = .ok ()
  verified : signed.verify = .ok ()

/-- Why a transaction that is addressed and acceptable is refused. -/
inductive Refusal (notary : Notary) (submission : Submission) : RejectionReason → Prop
  | unsigned {reason : RejectionReason} (failed : submission.signed.verify = .error reason) :
      Refusal notary submission reason
  | untimely {reason : RejectionReason} (verified : submission.signed.verify = .ok ())
      (unseen : notary.finalized? submission.signed.id = none)
      (failed : submission.signed.proposal.timeWindow.check submission.now = .error reason) :
      Refusal notary submission reason
  | conflicting (verified : submission.signed.verify = .ok ())
      (unseen : notary.finalized? submission.signed.id = none)
      (timely : submission.signed.proposal.timeWindow.check submission.now = .ok ())
      (taken : notary.consumed.conflicts submission.signed.proposal.inputRefs
        submission.signed.id ≠ []) :
      Refusal notary submission (.doubleSpend
        (notary.consumed.conflicts submission.signed.proposal.inputRefs submission.signed.id))

/-- What a submission can be answered, and what the notary is afterwards. -/
inductive Step (notary : Notary) (submission : Submission) :
    Except NotaryError Outcome → Notary → Prop
  | misaddressed (elsewhere : submission.signed.proposal.notary ≠ notary.identity) :
      Step notary submission
        (.error (.wrongNotary submission.signed.proposal.notary notary.identity)) notary
  | unacceptable {cause : ProposalError}
      (addressed : submission.signed.proposal.notary = notary.identity)
      (invalid : submission.signed.proposal.validate = .error cause) :
      Step notary submission (.error (.proposal cause)) notary
  | refused {reason : RejectionReason}
      (addressed : submission.signed.proposal.notary = notary.identity)
      (acceptable : submission.signed.proposal.validate = .ok ())
      (refusal : Refusal notary submission reason) :
      Step notary submission (.ok (.rejected reason))
        (notary.remember ⟨.rejected reason, submission.signed, []⟩)
  | replayed {record : NotaryRecord} (admissible : Admissible notary.identity submission.signed)
      (found : notary.finalized? submission.signed.id = some record) :
      Step notary submission (.ok record.outcome) notary
  | settled (admissible : Admissible notary.identity submission.signed)
      (unseen : notary.finalized? submission.signed.id = none)
      (timely : submission.signed.proposal.timeWindow.check submission.now = .ok ())
      (free : notary.consumed.conflicts submission.signed.proposal.inputRefs
        submission.signed.id = []) :
      Step notary submission (.ok (.finalized submission.signed.id)) (notary.finalize submission)

/-- The step of a transaction that reaches the ledger, from the conflicts of its inputs. -/
theorem step_settle {notary : Notary} {submission : Submission}
    (admissible : Admissible notary.identity submission.signed)
    (unseen : notary.finalized? submission.signed.id = none)
    (timely : submission.signed.proposal.timeWindow.check submission.now = .ok ()) :
    Step notary submission (.ok (notary.settle submission.signed submission.observers).1)
      (notary.settle submission.signed submission.observers).2 := by
  by_cases free : notary.consumed.conflicts submission.signed.proposal.inputRefs
      submission.signed.id = []
  · rw [settle, ConsumedStates.commit_of_free free]
    exact .settled admissible unseen timely free
  · rw [settle, ConsumedStates.commit_of_taken free]
    exact .refused admissible.addressed admissible.acceptable
      (.conflicting admissible.verified unseen timely free)

/-- The step of a transaction that is addressed to the notary and acceptable. -/
theorem step_rule {notary : Notary} {submission : Submission}
    (addressed : submission.signed.proposal.notary = notary.identity)
    (acceptable : submission.signed.proposal.validate = .ok ()) :
    Step notary submission
      (.ok (notary.rule submission.now submission.signed submission.observers).1)
      (notary.rule submission.now submission.signed submission.observers).2 := by
  unfold rule
  split
  · rename_i reason failed
    exact .refused addressed acceptable (.unsigned failed)
  · rename_i verified
    have admissible : Admissible notary.identity submission.signed :=
      ⟨addressed, acceptable, verified⟩
    split
    · rename_i record found
      exact .replayed admissible found
    · rename_i unseen
      split
      · rename_i reason failed
        exact .refused addressed acceptable (.untimely verified unseen failed)
      · rename_i timely
        exact step_settle admissible unseen timely

/-- **Every submission takes one of the five steps.** -/
theorem step (notary : Notary) (submission : Submission) :
    Step notary submission (notary.answer submission) (notary.after submission) := by
  unfold answer after notarise
  split
  · rename_i elsewhere
    exact .misaddressed elsewhere
  · rename_i addressed
    have addressed : submission.signed.proposal.notary = notary.identity :=
      Decidable.not_not.mp addressed
    split
    · rename_i cause invalid
      exact .unacceptable addressed invalid
    · rename_i acceptable
      exact step_rule addressed acceptable

/-- **A submission takes no other step than its own**: what a step says is what the notary does. -/
theorem Step.notarise_eq {notary next : Notary} {submission : Submission}
    {result : Except NotaryError Outcome} (taken : Step notary submission result next) :
    notary.notarise submission.now submission.signed submission.observers = (result, next) := by
  cases taken with
  | misaddressed elsewhere => rw [notarise, if_pos elsewhere]
  | unacceptable addressed invalid => simp only [notarise, addressed, invalid, ne_eq,
      not_true_eq_false, if_false]
  | refused addressed acceptable refusal =>
    simp only [notarise, addressed, acceptable, ne_eq, not_true_eq_false, if_false]
    cases refusal with
    | unsigned failed => simp only [rule, failed, reject]
    | untimely verified unseen failed => simp only [rule, verified, unseen, failed, reject]
    | conflicting verified unseen timely taken =>
      simp only [rule, verified, unseen, timely, settle, ConsumedStates.commit_of_taken taken,
        reject]
  | replayed admissible found =>
    simp only [notarise, rule, admissible.addressed, admissible.acceptable, admissible.verified,
      found, ne_eq, not_true_eq_false, if_false]
  | settled admissible unseen timely free =>
    simp only [notarise, rule, settle, finalize, admissible.addressed, admissible.acceptable,
      admissible.verified, unseen, timely, ConsumedStates.commit_of_free free, ne_eq,
      not_true_eq_false, if_false]

theorem Step.answer_eq {notary next : Notary} {submission : Submission}
    {result : Except NotaryError Outcome} (taken : Step notary submission result next) :
    notary.answer submission = result :=
  congrArg Prod.fst taken.notarise_eq

theorem Step.after_eq {notary next : Notary} {submission : Submission}
    {result : Except NotaryError Outcome} (taken : Step notary submission result next) :
    notary.after submission = next :=
  congrArg Prod.snd taken.notarise_eq

/-! ### What every step keeps -/

variable {notary next : Notary} {submission : Submission} {result : Except NotaryError Outcome}

theorem Step.identity_eq (taken : Step notary submission result next) :
    next.identity = notary.identity := by
  cases taken with
  | misaddressed | unacceptable | replayed => rfl
  | refused => exact identity_remember _ _
  | settled => exact identity_remember _ _

/-- A finalized record stays through every step. -/
theorem Step.get?_finalized {record : NotaryRecord} {id : TransactionId}
    (taken : Step notary submission result next)
    (found : notary.finalized.get? id = some record) : next.finalized.get? id = some record := by
  cases taken with
  | misaddressed | unacceptable | replayed => exact found
  | refused => exact get?_finalized_remember found
  | settled => exact get?_finalized_remember found

/-- A consumed state stays consumed by the same transaction. -/
theorem Step.consumer?_eq_some {state : StateRef} {id : TransactionId}
    (taken : Step notary submission result next) (held : notary.consumer? state = some id) :
    next.consumer? state = some id := by
  cases taken with
  | misaddressed | unacceptable | replayed => exact held
  | refused =>
    rw [consumer?, consumed_remember]
    exact held
  | settled _ _ _ free =>
    rw [consumer?_finalize]
    split_ifs with isInput
    · -- only the transaction itself can have consumed an input of its own
      exact congrArg some (ConsumedStates.consumer?_eq_of_free free isInput held).symm
    · exact held

/-- **A rejection** is given to a transaction that is addressed to the notary and acceptable, for
one of the reasons that the notary refuses for, and is remembered. -/
theorem Step.of_rejected {reason : RejectionReason}
    (taken : Step notary submission (.ok (.rejected reason)) next) :
    submission.signed.proposal.notary = notary.identity ∧
      submission.signed.proposal.validate = .ok () ∧ Refusal notary submission reason ∧
      next = notary.remember ⟨.rejected reason, submission.signed, []⟩ := by
  generalize answered : Except.ok (Outcome.rejected reason) = result at taken
  cases taken with
  | misaddressed | unacceptable | settled => cases answered
  | refused addressed acceptable refusal =>
    cases answered
    exact ⟨addressed, acceptable, refusal, rfl⟩
  | replayed _ found =>
    have finalized := isFinalized_of_finalized? found
    rw [← Except.ok.inj answered] at finalized
    cases finalized

/-- A rejection leaves the consumed states alone. -/
theorem Step.consumer?_eq_of_rejected {reason : RejectionReason}
    (taken : Step notary submission (.ok (.rejected reason)) next) (state : StateRef) :
    next.consumer? state = notary.consumer? state := by
  obtain ⟨-, -, -, rfl⟩ := taken.of_rejected
  rw [consumer?, consumed_remember, consumer?]

/-- A rejection leaves the finalized records alone. -/
theorem Step.finalized_eq_of_rejected {reason : RejectionReason}
    (taken : Step notary submission (.ok (.rejected reason)) next) :
    next.finalized = notary.finalized := by
  obtain ⟨-, -, -, rfl⟩ := taken.of_rejected
  exact finalized_remember_of_not_isFinalized rfl

end Notary

end TokenLedger
