import Mathlib.Data.List.Basic
import TokenLedger.Outcome
/-!
Which verdicts on one transaction can come one after the other.

A transaction that everyone has signed gets one of four verdicts (`Timed`). `Follows` says which may
come after which: anything may come after "not yet valid", nothing else than itself after a
finalization, and a refusal only hardens (`Hardens`), by more conflicts or by the end of the window.

`exists_settled`: a list of such verdicts, each of which follows all those before, has one shape:
not yet valid some times, and then settled (`Settled`), on the finalization or on refusals. Together
with the two lists that repeat a complaint about one signature these are the courses that the
answers to a transaction can take (`Course`).
-/

namespace TokenLedger.Notary

/-! ### What may follow -/

/-- How the reason of a refusal may change while the transaction stays refused. -/
inductive Hardens : RejectionReason → RejectionReason → Prop
  | same (reason : RejectionReason) : Hardens reason reason
  | grown {earlier later : List StateRef} (kept : earlier.Sublist later) :
      Hardens (.doubleSpend earlier) (.doubleSpend later)
  | expired (conflicts : List StateRef) : Hardens (.doubleSpend conflicts) .windowExpired

/-- The verdicts on a transaction that is admissible. -/
inductive Timed (id : TransactionId) : Outcome → Prop
  | notYetValid : Timed id (.rejected .windowNotYetValid)
  | finalized : Timed id (.finalized id)
  | doubleSpend (conflicts : List StateRef) : Timed id (.rejected (.doubleSpend conflicts))
  | expired : Timed id (.rejected .windowExpired)

/-- Which verdict may come after which on one transaction. -/
inductive Follows : Outcome → Outcome → Prop
  | notYetValid (later : Outcome) : Follows (.rejected .windowNotYetValid) later
  | finalized (id : TransactionId) : Follows (.finalized id) (.finalized id)
  | refused {earlier later : RejectionReason} (hardened : Hardens earlier later) :
      Follows (.rejected earlier) (.rejected later)

theorem Follows.eq_finalized {id : TransactionId} {later : Outcome}
    (follows : Follows (.finalized id) later) : later = .finalized id := by
  cases follows
  rfl

theorem Follows.eq_expired {later : Outcome}
    (follows : Follows (.rejected .windowExpired) later) : later = .rejected .windowExpired := by
  cases follows with
  | refused hardened =>
    cases hardened
    rfl

/-- A double spend is followed by one with its conflicts and possibly more, or by an expired
window. -/
theorem Follows.of_doubleSpend {taken : List StateRef} {later : Outcome}
    (follows : Follows (.rejected (.doubleSpend taken)) later) :
    (∃ more, later = .rejected (.doubleSpend more) ∧ taken.Sublist more) ∨
      later = .rejected .windowExpired := by
  cases follows with
  | refused hardened =>
    cases hardened with
    | same => exact Or.inl ⟨taken, rfl, .refl taken⟩
    | grown kept => exact Or.inl ⟨_, rfl, kept⟩
    | expired => exact Or.inr rfl

/-- What is finalized was finalized before, or too early. -/
theorem Follows.of_isFinalized {earlier later : Outcome} (follows : Follows earlier later)
    (finalized : later.isFinalized = true) :
    earlier = later ∨ earlier = .rejected .windowNotYetValid := by
  cases follows with
  | notYetValid => exact Or.inr rfl
  | finalized => exact Or.inl rfl
  | refused => cases finalized

/-! ### The courses -/

/-- What is answered to a transaction once its window has begun. -/
inductive Settled (id : TransactionId) : List Outcome → Prop
  | finalized (times : Nat) : Settled id (List.replicate times (.finalized id))
  | refused (conflicts : List (List StateRef)) (late : Nat)
      (growing : conflicts.Pairwise List.Sublist) :
      Settled id (conflicts.map (fun taken => .rejected (.doubleSpend taken)) ++
        List.replicate late (.rejected .windowExpired))

/-- The courses that the answers to one transaction can take: a signature is found missing every
time, or not valid every time; or the transaction is too early some times, and settled then. -/
inductive Course (id : TransactionId) : List Outcome → Prop
  | unsigned (party : Party) (times : Nat) :
      Course id (List.replicate times (.rejected (.missingSignature party)))
  | forged (party : Party) (times : Nat) :
      Course id (List.replicate times (.rejected (.invalidSignature party)))
  | timed (early : Nat) {settled : List Outcome} (then_settled : Settled id settled) :
      Course id (List.replicate early (.rejected .windowNotYetValid) ++ settled)

/-- Double spends and expired windows, each of which follows those before: the double spends come
first, and their conflicts grow. -/
theorem exists_conflicts {outcomes : List Outcome} (follows : outcomes.Pairwise Follows)
    (refused : ∀ outcome ∈ outcomes, (∃ taken, outcome = .rejected (.doubleSpend taken)) ∨
      outcome = .rejected .windowExpired) :
    ∃ (conflicts : List (List StateRef)) (late : Nat), conflicts.Pairwise List.Sublist ∧
      outcomes = conflicts.map (fun taken => .rejected (.doubleSpend taken)) ++
        List.replicate late (.rejected .windowExpired) := by
  induction outcomes with
  | nil => exact ⟨[], 0, .nil, rfl⟩
  | cons outcome rest ih =>
    obtain ⟨before, rest_follows⟩ := List.pairwise_cons.mp follows
    obtain ⟨first, rest_refused⟩ := List.forall_mem_cons.mp refused
    -- an expired window leaves nothing but itself behind; a double spend goes on with the rest
    obtain ⟨taken, rfl⟩ | rfl := first
    · obtain ⟨conflicts, late, growing, rfl⟩ := ih rest_follows rest_refused
      refine ⟨taken :: conflicts, late, List.pairwise_cons.mpr ⟨fun more found => ?_, growing⟩, rfl⟩
      have follows_taken := before (.rejected (.doubleSpend more))
        (List.mem_append_left _ (List.mem_map.mpr ⟨more, found, rfl⟩))
      rcases follows_taken.of_doubleSpend with ⟨more', same, kept⟩ | expired
      · cases same
        exact kept
      · cases expired
    · have expired := List.eq_replicate_of_mem fun later found => (before later found).eq_expired
      exact ⟨[], rest.length + 1, .nil, congrArg (_ :: ·) expired⟩

/-- Timed verdicts, each of which follows those before: those before the window come first. -/
theorem exists_settled {id : TransactionId} {outcomes : List Outcome}
    (follows : outcomes.Pairwise Follows) (timed : ∀ outcome ∈ outcomes, Timed id outcome) :
    ∃ early settled, outcomes = List.replicate early (.rejected .windowNotYetValid) ++ settled ∧
      Settled id settled := by
  induction outcomes with
  | nil => exact ⟨0, [], rfl, .finalized 0⟩
  | cons outcome rest ih =>
    obtain ⟨before, rest_follows⟩ := List.pairwise_cons.mp follows
    obtain ⟨first, rest_timed⟩ := List.forall_mem_cons.mp timed
    cases first with
    | notYetValid =>
      obtain ⟨early, settled, rfl, rest_settled⟩ := ih rest_follows rest_timed
      exact ⟨early + 1, settled, rfl, rest_settled⟩
    | finalized =>
      have same := List.eq_replicate_of_mem fun later found => (before later found).eq_finalized
      rw [same]
      exact ⟨0, _, rfl, .finalized (rest.length + 1)⟩
    | doubleSpend taken =>
      obtain ⟨conflicts, late, growing, split⟩ := exists_conflicts follows
        (List.forall_mem_cons.mpr ⟨Or.inl ⟨taken, rfl⟩, fun later found =>
          (before later found).of_doubleSpend.imp_left fun ⟨more, same, _⟩ => ⟨more, same⟩⟩)
      rw [split]
      exact ⟨0, _, rfl, .refused conflicts late growing⟩
    | expired =>
      have expired := List.eq_replicate_of_mem fun later found => (before later found).eq_expired
      rw [expired]
      exact ⟨0, _, rfl, .refused [] (rest.length + 1) .nil⟩

end TokenLedger.Notary
