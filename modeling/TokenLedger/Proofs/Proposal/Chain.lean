import Mathlib.Data.List.Chain
import Mathlib.Data.List.Forall2
import TokenLedger.Proofs.Proposal.Canonical
import TokenLedger.Proofs.Proposal.Drafted
/-!
Chains of moves.

A token is minted, and its proposal's first output goes from owner to owner: each time the output
of the proposal before is moved to a new owner under the same notary. Every one of these moves
succeeds, and nothing of the holding is lost on the way (`Proposal.conserved_by_moves`).

What goes from step to step is a holding that differs from the first token in its owner and in those
who take part, and in nothing else (`Token.SameUnits`). Moving such a holding gives what moving the
first token would have given, so that the owners in between leave no trace.
-/

namespace TokenLedger

/-- Two tokens for the same units, of whomever they are. -/
structure Token.SameUnits (held token : Token) : Prop where
  assetId : held.assetId = token.assetId
  quantity : held.quantity = token.quantity
  issuer : held.issuer = token.issuer

namespace Token

variable {held token : Token}

theorem SameUnits.refl (token : Token) : token.SameUnits token := ⟨rfl, rfl, rfl⟩

theorem sameUnits_withOwner (token : Token) (owner : Party) :
    (token.withOwner owner).SameUnits token := ⟨rfl, rfl, rfl⟩

/-- Who had the units before does not matter to the new owner. -/
theorem SameUnits.withOwner_eq (same : held.SameUnits token) (owner : Party) :
    held.withOwner owner = token.withOwner owner := by
  simp only [withOwner, same.assetId, same.quantity, same.issuer]

/-- The new owner takes part, and the issuer if it is someone else. -/
theorem participants_withOwner (token : Token) (owner : Party) :
    (token.withOwner owner).participants =
      if owner = token.issuer then [owner] else [owner, token.issuer] := by
  by_cases own : owner = token.issuer
  · rw [withOwner, if_pos own, if_pos own.symm]
  · rw [withOwner, if_neg own, if_neg (Ne.symm own)]

end Token

namespace Proposal

/-! ### Steps -/

/-- Who is the next owner, and in which window of time. -/
structure Handover where
  newOwner : Party
  start : Instant
  stop : Instant

/-- The proposal that gives the first output of the last one to a new owner, if there is one. -/
def handOver? (notary : Party) (last : Proposal) (handover : Handover) : Option Proposal := do
  let holding ← last.output? 0
  (move notary holding handover.newOwner handover.start handover.stop).toOption

/-- The proposals of one handover after the other, each of the output of the one before; nothing if
one of them cannot be made. -/
def handOverAll? (notary : Party) (last : Proposal) : List Handover → Option (List Proposal)
  | [] => some []
  | handover :: rest => do
    let next ← handOver? notary last handover
    let later ← handOverAll? notary next rest
    return next :: later

/-- A proposal consumes the first output of the one before and nothing else, and the owner of this
output has to sign, and nobody else. -/
def Consumes (before after : Proposal) : Prop :=
  ∃ holding, before.output? 0 = some holding ∧ after.inputs = [holding] ∧
    after.requiredSignatories.toList = [holding.token.owner]

/-- A proposal gives the units of a token to the new owner, as if it moved this token. -/
def HandsOver (token : Token) (handover : Handover) (proposal : Proposal) : Prop :=
  proposal.outputs = [token.withOwner handover.newOwner] ∧
    proposal.timeWindow = ⟨handover.start, handover.stop⟩

variable {notary : Party} {token held : Token} {last : Proposal} {handover : Handover}

/-- The first output of a proposal is moved if it is sound, by the notary that governs it. -/
theorem handOver?_eq {holding : Holding} (found : last.output? 0 = some holding)
    (governed : holding.notary = notary) (sound : holding.token.Sound)
    (ordered : handover.start < handover.stop) :
    handOver? notary last handover =
      some (moving notary holding handover.newOwner ⟨handover.start, handover.stop⟩) := by
  rw [handOver?, found]
  show (move notary holding handover.newOwner handover.start handover.stop).toOption = _
  rw [move_eq sound governed ordered]
  rfl

/-- **A handover succeeds**, and passes on the units of the last proposal's output. -/
theorem exists_handOver? (governed : last.notary = notary) (outputs : last.outputs = [held])
    (sound : held.Sound) (same : held.SameUnits token) (ordered : handover.start < handover.stop) :
    ∃ next, handOver? notary last handover = some next ∧ next.notary = notary ∧
      last.Consumes next ∧ HandsOver token handover next := by
  have found : last.output? 0 = some ⟨held, notary, ⟨last.id, 0⟩⟩ := by
    rw [output?, outputs, governed]
    rfl
  have made := handOver?_eq found rfl sound ordered
  refine ⟨_, made, rfl, ⟨_, found, rfl, signatories_moving⟩, ?_, rfl⟩
  show [held.withOwner handover.newOwner] = _
  rw [same.withOwner_eq]

/-- **A chain of handovers succeeds** from every proposal of the notary with one sound output. -/
theorem exists_handOverAll? (handovers : List Handover)
    (windows : ∀ handover ∈ handovers, handover.start < handover.stop)
    (governed : last.notary = notary) (outputs : last.outputs = [held]) (sound : held.Sound)
    (same : held.SameUnits token) :
    ∃ moved, handOverAll? notary last handovers = some moved ∧
      (last :: moved).IsChain Consumes ∧ List.Forall₂ (HandsOver token) handovers moved := by
  induction handovers generalizing last held with
  | nil => exact ⟨[], rfl, .singleton _, .nil⟩
  | cons handover rest ih =>
    obtain ⟨ordered, later_windows⟩ := List.forall_mem_cons.mp windows
    obtain ⟨next, made, next_governed, consumes, hands_over⟩ :=
      exists_handOver? governed outputs sound same ordered
    -- the output of the next proposal is sound, because the held token is
    have next_sound : (token.withOwner handover.newOwner).Sound :=
      same.withOwner_eq handover.newOwner ▸ sound.withOwner handover.newOwner
    obtain ⟨moved, all_made, chain, all_hand_over⟩ :=
      ih later_windows next_governed hands_over.1 next_sound (token.sameUnits_withOwner _)
    refine ⟨next :: moved, ?_, .cons_cons consumes chain, .cons hands_over all_hand_over⟩
    rw [handOverAll?, made]
    show (handOverAll? notary next rest).bind _ = _
    rw [all_made]
    rfl

/-! ### The whole chain -/

/-- The last proposal gives the units to the owner who comes last. -/
theorem outputs_getLast {handovers : List Handover} {moved : List Proposal}
    (all : List.Forall₂ (HandsOver token) handovers moved) (outputs : last.outputs = [held]) :
    ((last :: moved).getLast (List.cons_ne_nil _ _)).outputs =
      [(handovers.getLast?.map fun handover => token.withOwner handover.newOwner).getD held] := by
  induction all generalizing last held with
  | nil => exact outputs
  | cons hands_over _ ih =>
    rw [List.getLast_cons_cons, ih hands_over.1, List.getLast?_cons]
    rename_i handover next rest later _
    cases rest.getLast? with
    | none => rfl
    | some final => rfl

/-- **A chain of moves conserves the holding.** A valid token is minted and handed over any number
of times, each time in a window that ends after it starts. Then every proposal is made; each
consumes exactly the output of the one before and has to be signed by exactly the owner of this
output; and it gives the token to its new owner as if it had been moved for the first time. So at
the end there is one token, with the asset, the quantity and the issuer of the first, in the hands
of the last owner, and after a move those who take part are this owner and the issuer. -/
theorem conserved_by_moves (notary : Party) {start stop : Instant} {handovers : List Handover}
    (valid : token.validate = .ok ()) (ordered : start < stop)
    (windows : ∀ handover ∈ handovers, handover.start < handover.stop) :
    ∃ minted moved, create notary token start stop = .ok minted ∧
      handOverAll? notary minted handovers = some moved ∧
      (minted :: moved).IsChain Consumes ∧ List.Forall₂ (HandsOver token) handovers moved ∧
      ∃ final, ((minted :: moved).getLast (List.cons_ne_nil _ _)).outputs = [final] ∧
        final.assetId = token.assetId ∧ final.quantity = token.quantity ∧
        final.issuer = token.issuer ∧
        final.owner = (handovers.getLast?.map Handover.newOwner).getD token.owner ∧
        (handovers ≠ [] → final.participants =
          if final.owner = final.issuer then [final.owner] else [final.owner, final.issuer]) := by
  have sound : token.Sound := (Token.validate_eq_ok_iff token).mp valid
  have created : create notary token start stop = .ok (minting notary token ⟨start, stop⟩) :=
    create_eq sound ordered
  have governed : (minting notary token ⟨start, stop⟩).notary = notary := rfl
  have minted_outputs : (minting notary token ⟨start, stop⟩).outputs = [token] := rfl
  obtain ⟨moved, made, chain, all_hand_over⟩ :=
    exists_handOverAll? handovers windows governed minted_outputs sound (.refl token)
  refine ⟨_, moved, created, made, chain, all_hand_over, _,
    outputs_getLast all_hand_over minted_outputs, ?_⟩
  cases final : handovers.getLast? with
  | none =>
    refine ⟨rfl, rfl, rfl, rfl, fun some_move => ?_⟩
    exact absurd (List.getLast?_eq_none_iff.mp final) some_move
  | some handover =>
    exact ⟨rfl, rfl, rfl, rfl, fun _ => token.participants_withOwner handover.newOwner⟩

/-! A token that goes from its issuer to another party, stays there, and comes back. -/

namespace Round

open Rewritten (alice bob startingAt)

def window : TimeWindow := startingAt ⟨500, by decide⟩

def issued : Token := ⟨"GOLD", 5, alice, alice, [alice]⟩

def handovers : List Handover :=
  [bob, bob, alice].map fun newOwner => ⟨newOwner, window.start, window.stop⟩

end Round

open Rewritten Round in
theorem conserved_by_moves_round :
    issued.validate = .ok () ∧ window.start < window.stop ∧
      (∀ handover ∈ handovers, handover.start < handover.stop) ∧
      ∃ minted moved, create bob issued window.start window.stop = .ok minted ∧
        handOverAll? bob minted handovers = some moved ∧
        (minted :: moved).IsChain Consumes ∧
        ((minted :: moved).getLast (List.cons_ne_nil _ _)).outputs = [issued] := by
  have valid : issued.validate = .ok () := by decide
  have ordered : window.start < window.stop := by decide
  have windows : ∀ handover ∈ handovers, handover.start < handover.stop := by decide
  obtain ⟨minted, moved, created, made, chain, -, final, outputs, assetId, quantity, issuer, owner,
    participants⟩ := conserved_by_moves bob valid ordered windows
  refine ⟨valid, ordered, windows, minted, moved, created, made, chain, ?_⟩
  have alone : final.participants = [alice] := by
    rw [participants (List.cons_ne_nil _ _), owner, issuer]
    rfl
  have returned : final = issued := by
    calc final
      _ = ⟨final.assetId, final.quantity, final.owner, final.issuer, final.participants⟩ := rfl
      _ = issued := by
        rw [assetId, quantity, owner, issuer, alone]
        rfl
  rw [outputs, returned]

end Proposal

end TokenLedger
