import TokenLedger.Proofs.Notary.Step
/-!
Runs of a notary.

A run takes submissions one after the other, each at its own time, in whatever order and however
often. The times of the submissions are free: a clock that is set forward, set back or left alone
between two of them makes no difference to the notary other than through the next submission's time.

* `run_append`: a run can be cut anywhere.
* `run_induction`: what one submission keeps, a run keeps.
* `get?_finalized_run` and `consumer?_run`: a finalized record stays for good, and so does the
  consumer of a state.
-/

namespace TokenLedger.Notary

variable [SignatureScheme]

/-- The notary after a list of submissions, the first of them first. -/
def run (notary : Notary) (submissions : List Submission) : Notary :=
  submissions.foldl after notary

/-- The answers to a list of submissions, in their order. -/
def answers (notary : Notary) : List Submission → List (Except NotaryError Outcome)
  | [] => []
  | submission :: rest => notary.answer submission :: (notary.after submission).answers rest

@[simp] theorem run_nil (notary : Notary) : notary.run [] = notary := rfl

@[simp] theorem run_cons (notary : Notary) (submission : Submission) (rest : List Submission) :
    notary.run (submission :: rest) = (notary.after submission).run rest := rfl

@[simp] theorem run_append (notary : Notary) (earlier later : List Submission) :
    notary.run (earlier ++ later) = (notary.run earlier).run later :=
  List.foldl_append

theorem run_concat (notary : Notary) (earlier : List Submission) (last : Submission) :
    notary.run (earlier ++ [last]) = (notary.run earlier).after last := by
  rw [run_append, run_cons, run_nil]

/-- **What one submission keeps, a run keeps.** -/
theorem run_induction {motive : Notary → Prop}
    (kept : ∀ notary submission, motive notary → motive (notary.after submission))
    {notary : Notary} (start : motive notary) (submissions : List Submission) :
    motive (notary.run submissions) := by
  induction submissions generalizing notary with
  | nil => exact start
  | cons submission rest ih => exact ih (kept notary submission start)

/-- A notary keeps its name. -/
@[simp] theorem identity_run (notary : Notary) (submissions : List Submission) :
    (notary.run submissions).identity = notary.identity :=
  run_induction (motive := fun later => later.identity = notary.identity)
    (fun later submission same => (later.step submission).identity_eq.trans same) rfl submissions

/-- **A finalized record stays for good.** -/
theorem get?_finalized_run {notary : Notary} {id : TransactionId} {record : NotaryRecord}
    (found : notary.finalized.get? id = some record) (submissions : List Submission) :
    (notary.run submissions).finalized.get? id = some record :=
  run_induction (motive := fun later => later.finalized.get? id = some record)
    (fun later submission there => (later.step submission).get?_finalized there) found submissions

/-- A consumed state stays consumed by the same transaction. -/
theorem consumer?_run {notary : Notary} {state : StateRef} {id : TransactionId}
    (held : notary.consumer? state = some id) (submissions : List Submission) :
    (notary.run submissions).consumer? state = some id :=
  run_induction (motive := fun later => later.consumer? state = some id)
    (fun later submission there => (later.step submission).consumer?_eq_some there) held submissions

end TokenLedger.Notary
