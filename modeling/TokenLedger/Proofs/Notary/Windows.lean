import TokenLedger.Proofs.Notary.Finality
import TokenLedger.Proofs.Proposal.Canonical
/-!
Whose window a finalization honours.

A notary asks for the time before it finalizes a transaction, but not before it replays the answer
to one that it finalized already. Replays go by the id, and the id binds the bounds of a window as
whole microseconds only.

* `sameMicros_of_canonicalBytes`: proposals to one notary with the same bytes have windows with the
  same bounds in whole microseconds.
* `SameMicros.eq`: such windows are the same if no bound has a rest below the microsecond or lies in
  a leap second, whose microseconds count on into the next second.

`finalized_in_window` says in whose window an answer `finalized` was earned, and
`finalized_out_of_window` that this need not be the window of the transaction that is answered.
-/

namespace TokenLedger

/-! ### Windows in whole microseconds -/

/-- An instant outside of leap seconds without a rest below the microsecond. -/
structure Instant.WholeMicros (instant : Instant) : Prop where
  no_leap : instant.nano < nanosPerSecond
  no_rest : instant.nano % 1000 = 0

/-- Whole microseconds tell instants apart that have no rest below them. -/
theorem Instant.WholeMicros.eq {left right : Instant} (leftWhole : left.WholeMicros)
    (rightWhole : right.WholeMicros) (same : left.micros = right.micros) : left = right := by
  obtain ⟨leftNoLeap, leftNoRest⟩ := leftWhole
  obtain ⟨rightNoLeap, rightNoRest⟩ := rightWhole
  unfold nanosPerSecond at leftNoLeap rightNoLeap
  unfold Instant.micros at same
  have seconds : left.second = right.second := by omega
  have nanos : left.nano = right.nano := by omega
  cases left
  cases right
  cases seconds
  cases nanos
  rfl

namespace TimeWindow

structure WholeMicros (window : TimeWindow) : Prop where
  start : window.start.WholeMicros
  stop : window.stop.WholeMicros

/-- Windows with the same bounds in whole microseconds. -/
structure SameMicros (left right : TimeWindow) : Prop where
  start : left.start.micros = right.start.micros
  stop : left.stop.micros = right.stop.micros

theorem SameMicros.eq {left right : TimeWindow} (same : left.SameMicros right)
    (leftWhole : left.WholeMicros) (rightWhole : right.WholeMicros) : left = right := by
  have start := leftWhole.start.eq rightWhole.start same.start
  have stop := leftWhole.stop.eq rightWhole.stop same.stop
  cases left
  cases right
  cases start
  cases stop
  rfl

end TimeWindow

open Canonical in
/-- **The bytes of proposals to one notary bind the windows in whole microseconds**, whatever the
lengths of their texts and lists. -/
theorem Proposal.sameMicros_of_canonicalBytes {left right : Proposal}
    (notary : left.notary = right.notary) (equal : left.canonicalBytes = right.canonicalBytes) :
    left.timeWindow.SameMicros right.timeWindow := by
  have bounds := (framed_micros.on TimeWindow.start).append (framed_micros.on TimeWindow.stop)
  -- the bytes of the notary come first and are the same
  unfold canonicalBytes at equal
  simp only [notary, List.append_assoc, List.append_cancel_left_eq] at equal
  simp only [← List.append_assoc (signed _) (signed _)] at equal
  obtain ⟨⟨start, stop⟩, -⟩ := bounds left.timeWindow right.timeWindow ⟨trivial, trivial⟩
    ⟨trivial, trivial⟩ _ _ equal
  exact ⟨start, stop⟩

namespace Notary

section Scheme

variable [SignatureScheme]

/-- **A replay goes by the id alone**: what is admissible and has the id of a transaction that was
finalized is answered `finalized`, whatever the time. -/
theorem Consistent.answer_same_id {notary : Notary} (consistent : Consistent notary)
    {submission other : Submission} {id : TransactionId}
    (answered : notary.answer submission = .ok (.finalized id))
    (admissible : Admissible notary.identity other.signed) (same : other.signed.id = id) :
    (notary.after submission).answer other = .ok (.finalized id) := by
  have taken := notary.step submission
  rw [answered] at taken
  obtain ⟨-, -, record, found⟩ := consistent.answer_finalized taken
  have later := consistent.step taken
  have known : (notary.after submission).finalized? other.signed.id = some record := by
    rw [same, later.finalized?_eq]
    exact found
  rw [← taken.identity_eq] at admissible
  rw [← (later.justified found).outcome_eq]
  exact (Step.replayed admissible known).answer_eq

/-- **In whose window an answer `finalized` was earned, over every run of a notary.** A call of the
run, this one or one before, brought a transaction with the same id when the time was in the window
of that transaction. Unless different bytes hash to one id, both windows have the same bounds in
whole microseconds; and if the bounds of both are whole microseconds, the time was in the window of
the transaction that is answered. -/
theorem finalized_in_window {identity : Party} {history : List Submission} {submission : Submission}
    {id : TransactionId}
    (answered : ((fresh identity).run history).answer submission = .ok (.finalized id)) :
    ∃ before call later, history ++ [submission] = before ++ call :: later ∧
      call.signed.id = submission.signed.id ∧
      call.signed.proposal.timeWindow.contains call.now = true ∧
      (call.signed.proposal.canonicalBytes = submission.signed.proposal.canonicalBytes →
        call.signed.proposal.timeWindow.SameMicros submission.signed.proposal.timeWindow ∧
        (call.signed.proposal.timeWindow.WholeMicros →
          submission.signed.proposal.timeWindow.WholeMicros →
          submission.signed.proposal.timeWindow.contains call.now = true)) := by
  have consistent := consistent_run identity history
  have taken := ((fresh identity).run history).step submission
  rw [answered] at taken
  obtain ⟨rfl, admissible, record, found⟩ := consistent.answer_finalized taken
  have justified := (consistent.step taken).justified found
  rw [← run_concat] at found
  obtain ⟨before, call, later, split, settlement⟩ := exists_settlement found
  have inside := (TimeWindow.check_eq_ok_iff _ _).mp settlement.timely
  -- both transactions name this notary, so the bytes of the windows stand at the same place
  have notary : call.signed.proposal.notary = submission.signed.proposal.notary := by
    rw [settlement.signed_eq, justified.admissible.addressed, taken.identity_eq,
      admissible.addressed]
  refine ⟨before, call, later, split, ?_, inside, fun equal => ?_⟩
  · rw [settlement.signed_eq]
    exact justified.id_eq
  · have same := Proposal.sameMicros_of_canonicalBytes notary equal
    refine ⟨same, fun callWhole whole => ?_⟩
    rw [← same.eq callWhole whole]
    exact inside

end Scheme

/-! The mint once more, as a transaction whose window begins within the same microsecond. -/

namespace GoldMint

theorem nano_lt : 999 < 2 * nanosPerSecond := by decide

def nearlyMicro : Instant :=
  { opening with
    nano := 999
    nano_lt := nano_lt }

def twin : SignedTransaction where
  proposal := ((Draft.empty.addOutput ⟨"GOLD", 5, issuer, issuer, [issuer]⟩).addCommand
    (.ofList .create [issuer])).assemble notary ⟨nearlyMicro, closing⟩
  signatures := signed.signatures

theorem canonicalBytes_twin : signed.proposal.canonicalBytes = twin.proposal.canonicalBytes := by
  have same : signed.proposal.SameContent twin.proposal :=
    ⟨rfl, rfl, rfl, rfl, .cons ⟨rfl, rfl, rfl, rfl, fun _ => Iff.rfl⟩ .nil, rfl, rfl⟩
  exact same.canonicalBytes_eq

theorem id_twin : signed.id = twin.id :=
  calc signed.id = signed.proposal.contentId := (Draft.contentId_assemble _ _ _).symm
    _ = twin.proposal.contentId := congrArg TransactionId.ofCanonicalBytes canonicalBytes_twin
    _ = twin.id := Draft.contentId_assemble _ _ _

theorem admissible_twin : Admissible notary twin := by
  refine ⟨rfl, Draft.validate_assemble (by decide) (by decide) rfl rfl (by decide), ?_⟩
  refine SignedTransaction.verify_eq_ok_iff.mpr fun party required => ?_
  have signs := SignedTransaction.verify_eq_ok_iff.mp verified party required
  obtain ⟨-, signature, found, verifies⟩ := SignedTransaction.isSignedBy_iff.mp signs
  rw [id_twin] at verifies
  exact SignedTransaction.isSignedBy_iff.mpr
    ⟨Draft.contentId_assemble _ _ _, signature, found, verifies⟩

def atStart : Submission := ⟨opening, signed, []⟩

theorem answer_atStart : (fresh notary).answer atStart = .ok (.finalized atStart.signed.id) := by
  have timely : atStart.signed.proposal.timeWindow.check atStart.now = .ok () := rfl
  exact (Step.settled admissible rfl timely rfl).answer_eq

def twinBeforeStart : Submission := ⟨opening, twin, []⟩

theorem answer_twin :
    ((fresh notary).run [atStart]).answer twinBeforeStart = .ok (.finalized twin.id) := by
  rw [run_cons, run_nil, ← id_twin]
  exact (consistent_fresh notary).answer_same_id answer_atStart admissible_twin id_twin.symm

end GoldMint

open GoldMint in
theorem finalized_in_window_twin :
    ((fresh notary).run [atStart]).answer twinBeforeStart = .ok (.finalized twin.id) ∧
    ∃ before call later, [atStart, twinBeforeStart] = before ++ call :: later ∧
      call.signed.id = twin.id ∧ call.signed.proposal.timeWindow.contains call.now = true ∧
      (call.signed.proposal.canonicalBytes = twin.proposal.canonicalBytes →
        call.signed.proposal.timeWindow.SameMicros twin.proposal.timeWindow ∧
        (call.signed.proposal.timeWindow.WholeMicros → twin.proposal.timeWindow.WholeMicros →
          twin.proposal.timeWindow.contains call.now = true)) :=
  ⟨answer_twin, finalized_in_window answer_twin⟩

open GoldMint in
/-- **A transaction can be answered `finalized` out of its window**: the answer is the replay of the
one to another transaction with the same bytes, whose window began a microsecond sooner or less. -/
theorem finalized_out_of_window :
    Admissible notary twin ∧ twin.proposal.canonicalBytes = signed.proposal.canonicalBytes ∧
      ((fresh notary).run [atStart]).answer twinBeforeStart = .ok (.finalized twin.id) ∧
      ∀ call ∈ [atStart, twinBeforeStart],
        twin.proposal.timeWindow.contains call.now = false :=
  ⟨admissible_twin, canonicalBytes_twin.symm, answer_twin, by decide⟩

end Notary

end TokenLedger
