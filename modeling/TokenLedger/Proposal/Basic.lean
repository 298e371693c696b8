import TokenLedger.Outcome
import TokenLedger.SortedSet
import TokenLedger.Time.Timestamp
import TokenLedger.Token
/-!
Transaction proposals and their parts.

A proposal says which holdings it consumes and which tokens it produces, which notary rules on it,
in which window of time, by which commands, and who has to sign. The parts are plain values; which
of them make an acceptable proposal is the matter of `Proposal.validate`.
-/

namespace TokenLedger

/-! ### Errors -/

/-- Which rule a proposal breaks. -/
inductive ProposalError where
  /-- The window ends at or before its start; the bounds as text. -/
  | invalidWindow (start stop : String)
  | missingNotary
  | missingTimeWindow
  | noOutputs
  | noCommands
  /-- An input is governed by another notary than the proposal's. -/
  | notaryMismatch (input : StateRef) (inputNotary notary : Party)
  | duplicateInput (input : StateRef)
  /-- The required signatories are not those of the commands. -/
  | signatoryMismatch
  | invalidOutput (index : Nat) (cause : TokenError)
  /-- The id is not the hash of the content. -/
  | idMismatch (claimed actual : TransactionId)
  | encoding (detail : String)
deriving DecidableEq, Repr

namespace ProposalError

def message : ProposalError → String
  | .invalidWindow start stop =>
    "time window must end after it starts (from " ++ start ++ ", until " ++ stop ++ ")"
  | .missingNotary => "no notary set on the proposal"
  | .missingTimeWindow => "no time window set on the proposal"
  | .noOutputs => "proposal has no outputs"
  | .noCommands => "proposal has no commands"
  | .notaryMismatch input inputNotary notary =>
    "input " ++ input.text ++ " is governed by notary " ++ inputNotary.text ++ ", proposal uses "
      ++ notary.text
  | .duplicateInput input => "input " ++ input.text ++ " appears more than once"
  | .signatoryMismatch => "required signatories do not match the command signatories"
  | .invalidOutput index cause => "output " ++ toString index ++ " is invalid: " ++ cause.message
  | .idMismatch claimed actual =>
    "proposal claims id " ++ claimed.toHex ++ ", content hashes to " ++ actual.toHex
  | .encoding detail => "encoding error: " ++ detail

/-- The kind of the error in one word. -/
def kind : ProposalError → String
  | .invalidWindow _ _ => "InvalidWindow"
  | .missingNotary => "MissingNotary"
  | .missingTimeWindow => "MissingTimeWindow"
  | .noOutputs => "NoOutputs"
  | .noCommands => "NoCommands"
  | .notaryMismatch _ _ _ => "NotaryMismatch"
  | .duplicateInput _ => "DuplicateInput"
  | .signatoryMismatch => "SignatoryMismatch"
  | .invalidOutput _ _ => "InvalidOutput"
  | .idMismatch _ _ => "IdMismatch"
  | .encoding _ => "Encoding"

/-- The name of the part that is at fault. -/
def field : ProposalError → String
  | .invalidWindow _ _ | .missingTimeWindow => "time_window"
  | .missingNotary => "notary"
  | .noOutputs | .invalidOutput _ _ => "outputs"
  | .noCommands => "commands"
  | .notaryMismatch _ _ _ | .duplicateInput _ => "inputs"
  | .signatoryMismatch => "required_signatories"
  | .idMismatch _ _ => "id"
  | .encoding _ => "proposal"

end ProposalError

/-! ### Time windows -/

/-- The validity of a transaction: from its start on, and before its stop. -/
structure TimeWindow where
  start : Instant
  stop : Instant
deriving DecidableEq

namespace TimeWindow

/-- The error that reports a window by its bounds. -/
def invalid (start stop : Instant) : ProposalError :=
  .invalidWindow (Timestamp.render "+00:00" start) (Timestamp.render "+00:00" stop)

/-- The window between two instants, the second of which has to be later. -/
def between (start stop : Instant) : Except ProposalError TimeWindow :=
  if stop ≤ start then .error (invalid start stop) else .ok ⟨start, stop⟩

/-- Whether an instant lies in the window. -/
def contains (window : TimeWindow) (now : Instant) : Bool :=
  decide (window.start ≤ now) && decide (now < window.stop)

/-- Checks an instant against the window the way a notary does. -/
def check (window : TimeWindow) (now : Instant) : Except RejectionReason Unit :=
  if now < window.start then .error .windowNotYetValid
  else if window.stop ≤ now then .error .windowExpired
  else .ok ()

/-- **The check accepts exactly the instants in the window.** -/
theorem check_eq_ok_iff (window : TimeWindow) (now : Instant) :
    window.check now = .ok () ↔ window.contains now = true := by
  by_cases early : now < window.start
  · simp [check, contains, early, Instant.not_le.mpr early]
  · by_cases late : window.stop ≤ now
    · simp [check, contains, early, late, Instant.not_lt.mpr late]
    · simp [check, contains, early, late, Instant.not_lt.mp early, Instant.not_le.mp late]

theorem contains_iff {window : TimeWindow} {now : Instant} :
    window.contains now = true ↔ window.start ≤ now ∧ now < window.stop := by
  rw [contains, Bool.and_eq_true, decide_eq_true_iff, decide_eq_true_iff]

theorem check_eq_notYetValid_iff {window : TimeWindow} {now : Instant} :
    window.check now = .error .windowNotYetValid ↔ now < window.start := by
  unfold check
  split
  · simp [*]
  · split <;> simp [*]

theorem check_eq_expired_iff {window : TimeWindow} {now : Instant} :
    window.check now = .error .windowExpired ↔ window.start ≤ now ∧ window.stop ≤ now := by
  rw [← @Instant.not_lt now]
  unfold check
  split
  · simp [*]
  · split <;> simp [*]

/-- The check refuses an instant for the bound that it misses. -/
theorem check_eq_error {window : TimeWindow} {now : Instant} {reason : RejectionReason}
    (failed : window.check now = .error reason) :
    now < window.start ∧ reason = .windowNotYetValid ∨
      window.stop ≤ now ∧ reason = .windowExpired := by
  unfold check at failed
  split at failed
  · rename_i early
    exact Or.inl ⟨early, (Except.error.inj failed).symm⟩
  · split at failed
    · rename_i late
      exact Or.inr ⟨late, (Except.error.inj failed).symm⟩
    · contradiction

theorem between_eq_ok_iff {start stop : Instant} {window : TimeWindow} :
    between start stop = .ok window ↔ start < stop ∧ window = ⟨start, stop⟩ := by
  unfold between
  split
  · rename_i early
    have : ¬ start < stop := by rw [Instant.not_lt]; exact early
    simp [this]
  · rename_i late
    have : start < stop := Instant.not_le.mp late
    simp [this, eq_comm]

end TimeWindow

/-! ### Commands -/

/-- What a command does with tokens. -/
inductive CommandKind where
  /-- Brings new tokens into being; consumes nothing. -/
  | create
  /-- Gives existing tokens another owner. -/
  | move
deriving DecidableEq, Repr

namespace CommandKind

/-- The place of the kind in the order of kinds. -/
def rank : CommandKind → Nat
  | .create => 0
  | .move => 1

theorem rank_injective {left right : CommandKind} (same : left.rank = right.rank) :
    left = right := by
  cases left <;> cases right <;> simp_all [rank]

instance : Ord CommandKind where
  compare := compareOn rank

instance : Std.TransOrd CommandKind :=
  inferInstanceAs (Std.TransCmp (compareOn CommandKind.rank))

instance : Std.LawfulEqOrd CommandKind where
  eq_of_compare h := rank_injective (Std.LawfulEqOrd.eq_of_compare (α := Nat) h)

end CommandKind

/-- An intent together with the parties that have to sign for it. -/
structure Command where
  kind : CommandKind
  signatories : SortedSet Party
deriving DecidableEq

namespace Command

/-- A command whose signatories are given as a list; repetitions collapse. -/
def ofList (kind : CommandKind) (signatories : List Party) : Command :=
  ⟨kind, .ofList signatories⟩

instance : Ord Command where
  compare := compareLex (compareOn kind) (compareOn signatories)

instance : Std.TransOrd Command :=
  inferInstanceAs (Std.TransCmp (compareLex (compareOn kind) (compareOn signatories)))

instance : Std.LawfulEqOrd Command where
  eq_of_compare {left right} h := by
    obtain ⟨kinds, sets⟩ := compareLex_eq_eq.mp h
    have sameKind : left.kind = right.kind :=
      Std.LawfulEqOrd.eq_of_compare (α := CommandKind) kinds
    have sameSet : left.signatories = right.signatories :=
      Std.LawfulEqOrd.eq_of_compare (α := SortedSet Party) sets
    cases left; cases right; cases sameKind; cases sameSet; rfl

/-- The parties that sign for any of the commands. -/
def allSignatories (commands : SortedSet Command) : SortedSet Party :=
  .union (commands.toList.map signatories)

end Command

/-! ### Proposals -/

/-- An unsigned transaction. -/
structure Proposal where
  id : TransactionId
  notary : Party
  timeWindow : TimeWindow
  inputs : List Holding
  outputs : List Token
  commands : SortedSet Command
  requiredSignatories : SortedSet Party
deriving DecidableEq

namespace Proposal

/-- The references of the consumed holdings, in order. -/
def inputRefs (proposal : Proposal) : List StateRef :=
  proposal.inputs.map Holding.ref

/-- An output as the holding it is once the transaction is finalized. -/
def output? (proposal : Proposal) (index : UInt32) : Option Holding :=
  proposal.outputs[index.toNat]?.map fun token => ⟨token, proposal.notary, ⟨proposal.id, index⟩⟩

end Proposal

end TokenLedger
