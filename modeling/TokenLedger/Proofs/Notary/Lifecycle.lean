import TokenLedger.Proofs.Notary.Resubmission
/-!
The life of one transaction at a notary.

`answersTo` picks the answers to one transaction out of a run, in which other transactions may come
in between, be finalized or rejected. Each of these answers follows those before
(`exists_outcomes`), and so `answersTo_course`: together they take one of the courses of a
transaction.
-/

namespace TokenLedger.Notary

/-- The ids of the submissions tell their proposals apart. -/
def IdsDistinguish (submissions : List Submission) : Prop :=
  ∀ call ∈ submissions, SoleProposal call.signed submissions

section Scheme

variable [SignatureScheme]

/-- The answers to the submissions of one transaction among a list of submissions. -/
def answersTo (notary : Notary) (signed : SignedTransaction) :
    List Submission → List (Except NotaryError Outcome)
  | [] => []
  | submission :: rest =>
    if submission.signed = signed then
      notary.answer submission :: (notary.after submission).answersTo signed rest
    else (notary.after submission).answersTo signed rest

theorem answersTo_cons_of_eq {notary : Notary} {signed : SignedTransaction}
    {submission : Submission} {rest : List Submission} (same : submission.signed = signed) :
    notary.answersTo signed (submission :: rest) =
      notary.answer submission :: (notary.after submission).answersTo signed rest :=
  if_pos same

theorem answersTo_cons_of_ne {notary : Notary} {signed : SignedTransaction}
    {submission : Submission} {rest : List Submission} (different : submission.signed ≠ signed) :
    notary.answersTo signed (submission :: rest) =
      (notary.after submission).answersTo signed rest :=
  if_neg different

/-- An answer to a transaction is the answer to one of its submissions. -/
theorem exists_of_mem_answersTo {notary : Notary} {signed : SignedTransaction}
    {submissions : List Submission} {result : Except NotaryError Outcome}
    (given : result ∈ notary.answersTo signed submissions) :
    ∃ between again later, submissions = between ++ again :: later ∧ again.signed = signed ∧
      (notary.run between).answer again = result := by
  induction submissions generalizing notary with
  | nil => cases given
  | cons submission rest ih =>
    have later : result ∈ (notary.after submission).answersTo signed rest →
        ∃ between again later, submission :: rest = between ++ again :: later ∧
          again.signed = signed ∧ (notary.run between).answer again = result := by
      intro given
      obtain ⟨between, again, later, rfl, same, answered⟩ := ih given
      exact ⟨submission :: between, again, later, rfl, same, answered⟩
    by_cases same : submission.signed = signed
    · rw [answersTo_cons_of_eq same] at given
      rcases List.mem_cons.mp given with rfl | given
      · exact ⟨[], submission, rest, rfl, same, rfl⟩
      · exact later given
    · rw [answersTo_cons_of_ne same] at given
      exact later given

/-- What is answered to a transaction from its second submission on follows the first answer. -/
theorem follows_of_mem_answersTo {notary : Notary} {first : Submission} {rest : List Submission}
    {earlier later : Outcome} (consistent : Consistent notary)
    (admissible : Admissible notary.identity first.signed) (forward : Forward (first :: rest))
    (sole : SoleProposal first.signed rest) (answered : notary.answer first = .ok earlier)
    (given : .ok later ∈ (notary.after first).answersTo first.signed rest) :
    Follows earlier later := by
  obtain ⟨between, again, others, rfl, same, again_answered⟩ := exists_of_mem_answersTo given
  have shorter : (first :: between ++ [again]).Sublist (first :: (between ++ again :: others)) :=
    .cons_cons _ (.append (.refl _) (.cons_cons _ (List.nil_sublist _)))
  have resubmission : Resubmission first between again := ⟨same, forward.sublist shorter⟩
  have sole_between : SoleProposal first.signed between := fun call found =>
    sole call (List.mem_append_left _ found)
  obtain ⟨outcome, also_answered, follows⟩ :=
    answer_follows resubmission consistent admissible sole_between answered
  rw [again_answered] at also_answered
  cases also_answered
  exact follows

/-- **The answers to an admissible transaction** are verdicts of which each follows those before. -/
theorem exists_outcomes {notary : Notary} {signed : SignedTransaction}
    {submissions : List Submission} (consistent : Consistent notary)
    (admissible : Admissible notary.identity signed) (forward : Forward submissions)
    (distinct : IdsDistinguish submissions) :
    ∃ outcomes : List Outcome, notary.answersTo signed submissions = outcomes.map .ok ∧
      outcomes.Pairwise Follows ∧ ∀ outcome ∈ outcomes, Timed signed.id outcome := by
  induction submissions generalizing notary with
  | nil => exact ⟨[], rfl, .nil, fun _ found => absurd found List.not_mem_nil⟩
  | cons submission rest ih =>
    have taken := notary.step submission
    have distinct_rest : IdsDistinguish rest := fun call found other also_found =>
      distinct call (List.mem_cons_of_mem _ found) other (List.mem_cons_of_mem _ also_found)
    obtain ⟨outcomes, given, follows, timed⟩ := ih (consistent.step taken)
      (taken.identity_eq.symm ▸ admissible) (List.pairwise_cons.mp forward).2 distinct_rest
    by_cases same : submission.signed = signed
    · subst same
      obtain ⟨first, answered, first_timed⟩ := taken.exists_timed consistent admissible
      have sole : SoleProposal submission.signed rest := fun call found =>
        distinct submission List.mem_cons_self call (List.mem_cons_of_mem _ found)
      have first_follows : ∀ later ∈ outcomes, Follows first later := by
        intro later found
        refine follows_of_mem_answersTo consistent admissible forward sole answered ?_
        rw [given]
        exact List.mem_map_of_mem found
      refine ⟨first :: outcomes, ?_, List.pairwise_cons.mpr ⟨first_follows, follows⟩,
        List.forall_mem_cons.mpr ⟨first_timed, timed⟩⟩
      rw [answersTo_cons_of_eq rfl, answered, given, List.map_cons]
    · rw [answersTo_cons_of_ne same]
      exact ⟨outcomes, given, follows, timed⟩

/-- The answers to a transaction whose signatures are missing or not valid are all the same. -/
theorem answersTo_of_not_verified {notary : Notary} {signed : SignedTransaction}
    {reason : RejectionReason} (addressed : signed.proposal.notary = notary.identity)
    (acceptable : signed.proposal.validate = .ok ()) (failed : signed.verify = .error reason)
    (submissions : List Submission) :
    notary.answersTo signed submissions =
      List.replicate (notary.answersTo signed submissions).length (.ok (.rejected reason)) := by
  refine List.eq_replicate_of_mem fun result given => ?_
  obtain ⟨between, again, -, -, rfl, rfl⟩ := exists_of_mem_answersTo given
  exact answer_of_not_verified (addressed.trans (identity_run _ _).symm) acceptable failed

/-- **The answers to one transaction take one of the courses**, over every run of a notary on which
the clock does not go back and transactions with one id carry one proposal. If its proposal is not
acceptable, that is the answer every time, and there is no verdict. Otherwise either the same
required signature is found missing every time, or the same one is not valid every time; or the
transaction is too early any number of times, and then it is finalized for good, or it conflicts any
number of times, with the conflicts growing, and then its window has expired for good. In particular
only what came too early is ever finalized later. -/
theorem answersTo_course {identity : Party} {signed : SignedTransaction}
    {submissions : List Submission} (forward : Forward submissions)
    (distinct : IdsDistinguish submissions)
    (addressed : signed.proposal.notary = identity) :
    let answers := (fresh identity).answersTo signed submissions
    (∃ cause, signed.proposal.validate = .error cause ∧
      ∀ answer ∈ answers, answer = .error (.proposal cause)) ∨
    ∃ outcomes : List Outcome, answers = outcomes.map .ok ∧ Course signed.id outcomes ∧
      outcomes.Pairwise fun earlier later => later.isFinalized = true →
        earlier = later ∨ earlier = .rejected .windowNotYetValid := by
  intro answers
  cases acceptable : signed.proposal.validate with
  | error cause =>
    refine Or.inl ⟨cause, rfl, fun answer given => ?_⟩
    obtain ⟨between, again, -, -, rfl, rfl⟩ := exists_of_mem_answersTo given
    exact answer_of_unacceptable (addressed.trans (identity_run (fresh identity) _).symm) acceptable
  | ok =>
    refine Or.inr ?_
    cases verified : signed.verify with
    | error reason =>
      have constant : answers = List.replicate answers.length (.ok (.rejected reason)) :=
        answersTo_of_not_verified addressed acceptable verified submissions
      refine ⟨List.replicate answers.length (.rejected reason), ?_, ?_, ?_⟩
      · rw [List.map_replicate]
        exact constant
      · obtain ⟨party, -, rfl | rfl⟩ := SignedTransaction.verify_eq_error verified
        · exact .unsigned party _
        · exact .forged party _
      · exact List.pairwise_replicate.mpr (Or.inr nofun)
    | ok =>
      obtain ⟨outcomes, given, follows, timed⟩ := exists_outcomes (consistent_fresh identity)
        ⟨addressed, acceptable, verified⟩ forward distinct
      obtain ⟨early, settled, rfl, then_settled⟩ := exists_settled follows timed
      exact ⟨_, given, .timed early then_settled, follows.imp Follows.of_isFinalized⟩

end Scheme

namespace GoldMint

def calls : List Submission := [tooEarly, inTime, again]

theorem idsDistinguish_calls : IdsDistinguish calls := by
  have all_signed : ∀ call ∈ calls, call.signed = signed := by simp [calls, tooEarly, inTime, again]
  intro call found other also_found _
  rw [all_signed call found, all_signed other also_found]

theorem answer_last : (((fresh notary).after tooEarly).after inTime).answer again =
    .ok (.finalized inTime.signed.id) := by
  have answered := answer_inTime_later
  have replayed := (consistent_run notary [tooEarly]).notarise_again answered [] again.now []
  rw [run_nil, run_cons, run_nil] at replayed
  rw [answer]
  exact congrArg Prod.fst replayed

theorem answersTo_calls : (fresh notary).answersTo signed calls =
    [.ok (.rejected .windowNotYetValid), .ok (.finalized inTime.signed.id),
      .ok (.finalized inTime.signed.id)] := by
  have second := answer_inTime_later
  rw [run_cons, run_nil] at second
  have first_signed : tooEarly.signed = signed := rfl
  have second_signed : inTime.signed = signed := rfl
  have last_signed : again.signed = signed := rfl
  unfold calls
  rw [answersTo_cons_of_eq first_signed, answersTo_cons_of_eq second_signed,
    answersTo_cons_of_eq last_signed, answer_tooEarly, second, answer_last, answersTo]

end GoldMint

open GoldMint in
theorem answersTo_course_mint :
    Forward calls ∧ IdsDistinguish calls ∧ signed.proposal.notary = notary ∧
    (fresh notary).answersTo signed calls =
      [.ok (.rejected .windowNotYetValid), .ok (.finalized inTime.signed.id),
        .ok (.finalized inTime.signed.id)] ∧
    ∃ outcomes : List Outcome,
      (fresh notary).answersTo signed calls = outcomes.map .ok ∧ Course signed.id outcomes ∧
      outcomes.Pairwise fun earlier later => later.isFinalized = true →
        earlier = later ∨ earlier = .rejected .windowNotYetValid := by
  have forward : Forward calls := by unfold Forward; decide
  refine ⟨forward, idsDistinguish_calls, rfl, answersTo_calls, ?_⟩
  rcases answersTo_course forward idsDistinguish_calls admissible.addressed with
    ⟨cause, invalid, -⟩ | course
  · rw [admissible.acceptable] at invalid
    cases invalid
  · exact course

end TokenLedger.Notary
