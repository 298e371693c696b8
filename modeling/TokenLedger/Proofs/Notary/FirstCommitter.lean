import Mathlib.Data.Finset.Card
import Mathlib.Data.Finset.Dedup
import TokenLedger.Proofs.Notary.ConsumedStates
/-!
The first to commit a state consumes it.

A run takes requests to consume states one after the other, each on behalf of some transaction, with
any inputs: repeated ones, none at all, or inputs of requests before. A request is granted as a
whole or changes nothing.

* `consumer?_after`: a granted request becomes the consumer of those of its inputs that had none. It
  overwrites nobody, since the inputs that are taken already are its own transaction's.
* `consumer?_run`: so the consumer of a state after a run is the first transaction that was granted
  it, unless it had one before.
* `commit_granted`: a request that was granted at any point of a run is granted again at its end,
  and changes nothing then.

`first_committer_wins` puts this together for every run from the beginning, with the number of
consumed states and the answer to whatever request comes next.
-/

namespace TokenLedger

/-- A map has as many entries as there are keys that it answers for. -/
theorem SortedMap.size_eq_card {κ υ : Type} [Ord κ] [Std.LawfulEqOrd κ] [Std.TransOrd κ]
    [DecidableEq κ] {map : SortedMap κ υ} {keys : Finset κ}
    (answered : ∀ key, key ∈ keys ↔ ∃ value, map.get? key = some value) :
    map.size = keys.card := by
  have distinct : (map.toList.map Prod.fst).Nodup := by
    refine List.pairwise_map.mpr (map.increasing.imp fun {left right} below same => ?_)
    rw [same] at below
    simp at below
  have listed : (map.toList.map Prod.fst).toFinset = keys := by
    ext key
    rw [List.mem_toFinset, List.mem_map, answered]
    constructor
    · rintro ⟨⟨_, value⟩, found, rfl⟩
      exact ⟨value, mem_toList.mp found⟩
    · rintro ⟨value, found⟩
      exact ⟨(key, value), mem_toList.mpr found, rfl⟩
  rw [← listed, List.toFinset_card_of_nodup distinct, List.length_map]
  rfl

namespace ConsumedStates

/-- What is consumed is known by who consumed what. -/
theorem ext {left right : ConsumedStates}
    (same : ∀ state, left.consumer? state = right.consumer? state) : left = right := by
  cases left
  cases right
  exact congrArg mk (SortedMap.ext same)

/-! ### Requests -/

/-- A request to consume states for a transaction. -/
structure Request where
  inputs : List StateRef
  id : TransactionId

/-- The answer to a request. -/
def answer (consumed : ConsumedStates) (request : Request) : Commitment :=
  (consumed.commit request.inputs request.id).1

/-- What is consumed after a request. -/
def after (consumed : ConsumedStates) (request : Request) : ConsumedStates :=
  (consumed.commit request.inputs request.id).2

/-- What is consumed after a list of requests, the first of them first. -/
def run (consumed : ConsumedStates) (requests : List Request) : ConsumedStates :=
  requests.foldl after consumed

/-- The requests of a list that are granted, in their order. -/
def granted (consumed : ConsumedStates) : List Request → List Request
  | [] => []
  | request :: rest =>
    let later := (consumed.after request).granted rest
    if consumed.answer request = .committed then request :: later else later

variable {consumed : ConsumedStates} {request : Request} {requests : List Request}

/-! ### One request -/

/-- A request is granted if no input of it is another transaction's. -/
theorem answer_eq_committed_iff :
    consumed.answer request = .committed ↔ consumed.conflicts request.inputs request.id = [] := by
  by_cases free : consumed.conflicts request.inputs request.id = []
  · simp [answer, commit_of_free free, free]
  · simp [answer, commit_of_taken free, free]

theorem after_of_granted (granted : consumed.answer request = .committed) :
    consumed.after request = consumed.mark request.inputs request.id := by
  rw [after, commit_of_free (answer_eq_committed_iff.mp granted)]

/-- A request that is not granted changes nothing. -/
theorem after_of_refused (refused : consumed.answer request ≠ .committed) :
    consumed.after request = consumed := by
  rw [after, commit_of_taken fun free => refused (answer_eq_committed_iff.mpr free)]

/-- **A granted request consumes what nobody consumed**, and what has a consumer keeps it. -/
theorem consumer?_after (consumed : ConsumedStates) (request : Request) (state : StateRef) :
    (consumed.after request).consumer? state =
      (consumed.consumer? state).or
        (if consumed.answer request = .committed ∧ state ∈ request.inputs then some request.id
          else none) := by
  by_cases granted : consumed.answer request = .committed
  · rw [after_of_granted granted, consumer?_mark]
    by_cases isInput : state ∈ request.inputs
    · rw [if_pos isInput, if_pos ⟨granted, isInput⟩]
      cases held : consumed.consumer? state with
      | none => rfl
      | some holder =>
        have own := consumer?_eq_of_free (answer_eq_committed_iff.mp granted) isInput held
        rw [own, Option.some_or]
    · rw [if_neg isInput, if_neg fun both => isInput both.2, Option.or_none]
  · rw [after_of_refused granted, if_neg fun both => granted both.1, Option.or_none]

/-- A granted request consumes all of its inputs. -/
theorem consumer?_of_granted (granted : consumed.answer request = .committed) {state : StateRef}
    (isInput : state ∈ request.inputs) :
    (consumed.after request).consumer? state = some request.id := by
  rw [after_of_granted granted, consumer?_mark, if_pos isInput]

/-- A request whose inputs are all consumed by its own transaction is granted and changes
nothing. -/
theorem commit_of_own (own : ∀ state ∈ request.inputs, consumed.consumer? state = some request.id) :
    consumed.commit request.inputs request.id = (.committed, consumed) := by
  have free : consumed.conflicts request.inputs request.id = [] := by
    apply List.eq_nil_iff_forall_not_mem.mpr
    intro state taken
    obtain ⟨isInput, holder, held, different⟩ := mem_conflicts.mp taken
    rw [own state isInput] at held
    exact different (Option.some.inj held).symm
  rw [commit_of_free free]
  refine congrArg (Prod.mk _) (ext fun state => ?_)
  rw [consumer?_mark]
  by_cases isInput : state ∈ request.inputs
  · rw [if_pos isInput, own state isInput]
  · rw [if_neg isInput]

/-! ### Runs of requests -/

theorem run_cons (consumed : ConsumedStates) (request : Request) (rest : List Request) :
    consumed.run (request :: rest) = (consumed.after request).run rest := rfl

/-- A consumed state stays consumed by the same transaction. -/
theorem consumer?_run_of_held {state : StateRef} {holder : TransactionId}
    (held : consumed.consumer? state = some holder) (requests : List Request) :
    (consumed.run requests).consumer? state = some holder := by
  induction requests generalizing consumed with
  | nil => exact held
  | cons request rest ih =>
    apply ih
    rw [consumer?_after, held, Option.some_or]

/-- **The consumer of a state after a run** is the one that it had before, and else the first
transaction that was granted it. -/
theorem consumer?_run (consumed : ConsumedStates) (requests : List Request) (state : StateRef) :
    (consumed.run requests).consumer? state =
      (consumed.consumer? state).or
        (((consumed.granted requests).find? fun request => state ∈ request.inputs).map
          Request.id) := by
  induction requests generalizing consumed with
  | nil => exact Option.or_none.symm
  | cons request rest ih =>
    rw [run_cons, ih, consumer?_after, Option.or_assoc, granted]
    congr 1
    by_cases granted : consumed.answer request = .committed
    · by_cases isInput : state ∈ request.inputs
      · simp [granted, isInput]
      · simp [granted, isInput]
    · simp [granted]

/-- **A request that was granted in a run is granted again at its end**, and changes nothing. -/
theorem commit_granted (was_granted : request ∈ consumed.granted requests) :
    (consumed.run requests).commit request.inputs request.id =
      (.committed, consumed.run requests) := by
  induction requests generalizing consumed with
  | nil => cases was_granted
  | cons first rest ih =>
    rw [granted] at was_granted
    split at was_granted
    · rename_i now_granted
      rcases List.mem_cons.mp was_granted with same | later
      · -- from here on its inputs have it as their consumer
        rw [same]
        apply commit_of_own
        intro state isInput
        exact consumer?_run_of_held (consumer?_of_granted now_granted isInput) rest
      · exact ih later
    · exact ih was_granted

/-- **The first committer wins.** After any run of requests, a state is consumed by the transaction
of the first request that was granted with it, and not consumed if there is none; there are as many
consumed states as distinct inputs of granted requests. The next request, whatever it is, is refused
exactly if some of its inputs are another transaction's: these are reported in the order and as
often as they were given, and nothing changes. Each request that was granted is granted again, and
changes nothing. -/
theorem first_committer_wins (requests : List Request) :
    let consumed := empty.run requests
    let granted := empty.granted requests
    (∀ state, consumed.consumer? state =
      (granted.find? fun request => state ∈ request.inputs).map Request.id) ∧
    consumed.size = (granted.flatMap Request.inputs).toFinset.card ∧
    (∀ next : Request,
      let taken := next.inputs.filter fun state => (consumed.consumer? state).any (· != next.id)
      taken = [] ∧ consumed.answer next = .committed ∨
        taken ≠ [] ∧ consumed.commit next.inputs next.id = (.conflict taken, consumed)) ∧
    ∀ request ∈ granted, consumed.commit request.inputs request.id = (.committed, consumed) := by
  intro consumed granted
  have consumer_eq : ∀ state, consumed.consumer? state =
      (granted.find? fun request => state ∈ request.inputs).map Request.id :=
    fun state => consumer?_run empty requests state
  refine ⟨consumer_eq, ?_, fun next => ?_, fun request => commit_granted⟩
  · refine SortedMap.size_eq_card fun state => ?_
    show _ ↔ ∃ holder, consumed.consumer? state = some holder
    rw [consumer_eq, List.mem_toFinset, List.mem_flatMap, ← Option.isSome_iff_exists,
      Option.isSome_map, List.find?_isSome]
    simp
  · intro taken
    have taken_eq : taken = consumed.conflicts next.inputs next.id := by
      refine List.filter_congr fun state _ => ?_
      unfold takenFrom
      cases consumed.consumer? state <;> rfl
    rw [taken_eq]
    by_cases free : consumed.conflicts next.inputs next.id = []
    · exact Or.inl ⟨free, answer_eq_committed_iff.mpr free⟩
    · exact Or.inr ⟨free, commit_of_taken free⟩

end ConsumedStates

end TokenLedger
