import TokenLedger.Proofs.Flow.Preparing
/-!
Settings under which the mint flow has no answer.

The validation of settings asks for a validity of at least one second and sets no upper bound. A
validity can be longer than the longest span, in which case it cannot be told at all, and it can be
shorter than that and still lead beyond time. `MintFlow.prepare_beyondTime_iff` says for which
settings, times and requests this keeps the flow from an answer; `MintFlow.valid_but_beyondTime` has
settings that validate, and a request that would be accepted otherwise.
-/

namespace TokenLedger

section Scheme

variable [SignatureScheme]

namespace MintFlow

/-- **When the flow stops without an answer.** Settings that validate may ask for a validity that is
longer than the longest span, and for one that is no longer but leads beyond time. Either way the
flow has no answer to a request of which a proposal can be drafted. It has one to every other
request, and to every request at a time from which the validity leads to a second within time. -/
theorem prepare_beyondTime_iff (config : FlowConfig) (valid : config.validate = .ok ()) :
    (config.validity = none ↔ Span.longestMillis / 1000 < config.validitySeconds.toNat) ∧
    (∀ span, config.validity = some span →
      span.nanos = config.validitySeconds.toNat * nanosPerSecond) ∧
    ∀ membership notaries keys now request,
      let flow : MintFlow := ⟨membership, notaries, keys, config⟩
      flow.prepare now request = .error .beyondTime ↔
        lastSecond < now.second + config.validitySeconds.toNat ∧
          ∃ own owner issuer, flow.Draftable request own owner issuer := by
  refine ⟨FlowConfig.validity_eq_none_iff, fun span found => ?_,
    fun membership notaries keys now request => ?_⟩
  · unfold FlowConfig.validity Span.ofSeconds? at found
    split at found
    · cases found
      exact Int.add_zero _
    · cases found
  intro flow
  have some_time : 0 < flow.config.validitySeconds.toNat := FlowConfig.validitySeconds_pos valid
  constructor
  · intro stopped
    refine ⟨Int.not_le.mp fun in_time => ?_, ?_⟩
    · obtain ⟨stop, ends⟩ := (exists_windowEnd_iff some_time).mpr in_time
      rcases flow.prepare_cases request some_time ends with
        ⟨own, signed, -, -, prepared⟩ | ⟨error, -, reported⟩
      · rw [prepared] at stopped
        cases stopped
      · rw [reported] at stopped
        cases stopped
    · rcases flow.exists_draftable_or_undraftable request with draftable | ⟨error, undraftable⟩
      · exact draftable
      · rw [undraftable.prepare_eq] at stopped
        cases stopped
  · rintro ⟨beyond, own, owner, issuer, draftable⟩
    exact prepare_of_beyond draftable (windowEnd_of_beyond some_time beyond)

end MintFlow

end Scheme

/-! A flow that would accept the request, with two validities: one of some three hundred thousand
years, and the greatest number of seconds that a signed word of sixty-four bits can count. -/

namespace SecondKey

def longConfig : FlowConfig := ⟨10000000000000, 30000, 3, .fixed 10⟩

def endlessConfig : FlowConfig := ⟨9223372036854775807, 30000, 3, .fixed 10⟩

def longFlow : MintFlow := { flow with config := longConfig }

def endlessFlow : MintFlow := { flow with config := endlessConfig }

end SecondKey

open SecondKey in
theorem MintFlow.prepare_beyondTime_iff_long :
    longConfig.validate = .ok () ∧ longConfig.validity ≠ none ∧
      longFlow.prepare moment request = .error .beyondTime := by
  have valid : longConfig.validate = .ok () := rfl
  obtain ⟨endless, -, stops⟩ := prepare_beyondTime_iff longConfig valid
  refine ⟨valid, fun none_at_all => absurd (endless.mp none_at_all) (by decide), ?_⟩
  have draftable : longFlow.Draftable request party party party := accepts.draftable.withConfig _
  exact (stops longFlow.membership longFlow.notaries longFlow.keys moment request).mpr
    ⟨by decide, party, party, party, draftable⟩

open SecondKey in
/-- **Settings that validate can leave the flow without an answer**, and their validity without a
span. -/
theorem MintFlow.valid_but_beyondTime :
    endlessConfig.validate = .ok () ∧ endlessConfig.validity = none ∧
      endlessFlow.prepare moment request = .error .beyondTime := by
  have endless : endlessConfig.validity = none := FlowConfig.validity_eq_none_iff.mpr (by decide)
  have beyond : endlessFlow.windowEnd moment = .error .beyondTime :=
    windowEnd_of_beyond (by decide) (by decide)
  have draftable : endlessFlow.Draftable request party party party := accepts.draftable.withConfig _
  exact ⟨rfl, endless, prepare_of_beyond draftable beyond⟩

end TokenLedger
