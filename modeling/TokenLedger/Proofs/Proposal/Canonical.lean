import Mathlib.Tactic.Tauto
import TokenLedger.Proofs.Proposal.Framing
/-!
What the canonical bytes of a proposal bind.

Two proposals have the same canonical bytes exactly when they have the same content
(`canonicalBytes_bind_content`): the notary, the bounds of the window in whole microseconds, the
references of the inputs in order, the outputs in order, the commands and the required signatories.
Outputs count as the same when they differ in their participants' order and repetitions only.

Each part is framed, from the party up to the proposal, and the proposal's bytes are the parts in a
row. The other direction rests on the one written form of a set.
-/

namespace TokenLedger

/-! ### Parties and references -/

namespace Canonical

/-- A party with a name that fits. -/
def FitsParty (value : Party) : Prop := FitsText value.name.text

instance : DecidablePred FitsParty := fun value =>
  inferInstanceAs (Decidable (FitsText value.name.text))

theorem framed_party : Framed FitsParty Eq party := by
  have parts := (framed_text.on fun value : Party => value.name.text).append
    (framed_bytes32.on fun value : Party => value.key.bytes)
  refine parts.imp (fun value fits => ⟨fits, trivial⟩) fun left right same => ?_
  rcases left with ⟨⟨name⟩, ⟨key⟩⟩
  rcases right with ⟨⟨name'⟩, ⟨key'⟩⟩
  obtain ⟨names, keys⟩ := same
  simp only at names keys
  rw [names, keys]

/-- A set of parties whose size fits, with names that fit. -/
def FitsParties (values : SortedSet Party) : Prop := FitsList FitsParty values.toList

instance : DecidablePred FitsParties := fun values =>
  inferInstanceAs (Decidable (FitsList FitsParty values.toList))

theorem framed_parties : Framed FitsParties Eq parties := by
  refine (framed_party.list.on SortedSet.toList).imp (fun _ fits => fits) fun left right same => ?_
  rw [List.forall₂_eq_eq_eq] at same
  exact SortedSet.toList_inj.mp same

theorem framed_stateRef : Framed (fun _ => True) Eq stateRef := by
  have parts := (framed_bytes32.on fun value : StateRef => value.transactionId.bytes).append
    ((framed_littleEndian 4).on fun value : StateRef => value.index.toNat)
  refine parts.imp (fun value _ => ⟨trivial, value.index.toNat_lt⟩) fun left right same => ?_
  rcases left with ⟨⟨id⟩, index⟩
  rcases right with ⟨⟨id'⟩, index'⟩
  obtain ⟨ids, indices⟩ := same
  simp only at ids indices
  rw [ids, UInt32.toNat_inj.mp indices]

end Canonical

/-! ### Tokens -/

/-- Tokens that differ in the order and the repetitions of their participants only. -/
structure Token.SameContent (left right : Token) : Prop where
  assetId : left.assetId = right.assetId
  quantity : left.quantity = right.quantity
  owner : left.owner = right.owner
  issuer : left.issuer = right.issuer
  participants : ∀ party, party ∈ left.participants ↔ party ∈ right.participants

namespace Canonical

/-- A token whose texts and whose list of participants fit. -/
def FitsToken (value : Token) : Prop :=
  FitsText value.assetId ∧ FitsParty value.owner ∧ FitsParty value.issuer ∧
    FitsList FitsParty value.participants

instance : DecidablePred FitsToken := fun value =>
  inferInstanceAs (Decidable (FitsText value.assetId ∧ FitsParty value.owner ∧
    FitsParty value.issuer ∧ FitsList FitsParty value.participants))

/-- Making a set of a list makes it no longer. -/
theorem fitsParties_ofList {values : List Party} (fits : FitsList FitsParty values) :
    FitsParties (.ofList values) := by
  refine ⟨?_, fun value found => fits.2 value (SortedSet.mem_ofList.mp found)⟩
  exact Nat.lt_of_le_of_lt (SortedSet.length_toList_ofList_le values) fits.1

theorem framed_token : Framed FitsToken Token.SameContent token := by
  have parts := ((((framed_text.on Token.assetId).append
    ((framed_littleEndian 8).on fun value : Token => value.quantity.toNat)).append
    (framed_party.on Token.owner)).append (framed_party.on Token.issuer)).append
    (framed_parties.on fun value : Token => .ofList value.participants)
  refine parts.imp (fun value fits => ?_) fun left right same => ?_
  · obtain ⟨assetId, owner, issuer, participants⟩ := fits
    exact ⟨⟨⟨⟨assetId, value.quantity.toNat_lt⟩, owner⟩, issuer⟩,
      fitsParties_ofList participants⟩
  · obtain ⟨⟨⟨⟨assetId, quantity⟩, owner⟩, issuer⟩, participants⟩ := same
    refine ⟨assetId, UInt64.toNat_inj.mp quantity, owner, issuer, fun party => ?_⟩
    rw [← SortedSet.mem_ofList, participants, SortedSet.mem_ofList]

/-- Tokens with the same content have the same bytes. -/
theorem token_congr {left right : Token} (same : left.SameContent right) :
    token left = token right := by
  have sets : SortedSet.ofList left.participants = SortedSet.ofList right.participants :=
    SortedSet.ofList_congr same.participants
  rw [token, token, same.assetId, same.quantity, same.owner, same.issuer, sets]

/-! ### Commands -/

/-- A command whose set of signatories fits. -/
def FitsCommand (value : Command) : Prop := FitsParties value.signatories

instance : DecidablePred FitsCommand := fun value =>
  inferInstanceAs (Decidable (FitsParties value.signatories))

theorem framed_command : Framed FitsCommand Eq command := by
  have parts := ((framed_littleEndian 4).on fun value : Command => value.kind.rank).append
    (framed_parties.on Command.signatories)
  refine parts.imp (fun value fits => ⟨?_, fits⟩) fun left right same => ?_
  · have small : value.kind.rank < 2 := by cases value.kind <;> decide
    exact Nat.lt_trans small (by decide)
  · rcases left with ⟨kind, signatories⟩
    rcases right with ⟨kind', signatories'⟩
    obtain ⟨kinds, sets⟩ := same
    simp only at kinds sets
    rw [CommandKind.rank_injective kinds, sets]

/-! ### Times -/

/-- A signed number between `-2 ^ 63` and `2 ^ 63` is determined by its bytes. -/
theorem signed_injective {left right : Int} (leftLow : -(UInt64.size / 2 : Int) ≤ left)
    (leftHigh : left < UInt64.size / 2) (rightLow : -(UInt64.size / 2 : Int) ≤ right)
    (rightHigh : right < UInt64.size / 2) (equal : signed left = signed right) :
    left = right := by
  have fits : ∀ number : Int, (number % UInt64.size).toNat < Nat.pow 256 8 := by
    intro number
    show (number % 18446744073709551616).toNat < 18446744073709551616
    omega
  have residues := littleEndian_injective (fits left) (fits right) equal
  unfold UInt64.size at *
  omega

/-- An instant's microseconds fit into eight bytes with a sign. -/
theorem micros_bounds (instant : Instant) :
    -(UInt64.size / 2 : Int) ≤ instant.micros ∧ instant.micros < UInt64.size / 2 := by
  have early := instant.firstSecond_le
  have late := instant.le_lastSecond
  have nano := instant.nano_lt
  unfold firstSecond at early
  unfold lastSecond at late
  unfold nanosPerSecond at nano
  unfold Instant.micros UInt64.size
  omega

theorem framed_micros : Framed (fun _ => True) (fun left right => left.micros = right.micros)
    (fun instant : Instant => signed instant.micros) := by
  refine .of_length (fun instant => length_littleEndian 8 _) fun left right _ _ equal => ?_
  obtain ⟨leftLow, leftHigh⟩ := micros_bounds left
  obtain ⟨rightLow, rightHigh⟩ := micros_bounds right
  exact signed_injective leftLow leftHigh rightLow rightHigh equal

end Canonical

/-! ### Proposals -/

namespace Proposal

/-- Proposals with the same canonical content. -/
structure SameContent (left right : Proposal) : Prop where
  notary : left.notary = right.notary
  start : left.timeWindow.start.micros = right.timeWindow.start.micros
  stop : left.timeWindow.stop.micros = right.timeWindow.stop.micros
  inputRefs : left.inputRefs = right.inputRefs
  outputs : List.Forall₂ Token.SameContent left.outputs right.outputs
  commands : left.commands = right.commands
  requiredSignatories : left.requiredSignatories = right.requiredSignatories

open Canonical in
/-- A proposal whose texts and lists all have lengths that eight bytes can hold. -/
structure Fits (proposal : Proposal) : Prop where
  notary : FitsParty proposal.notary
  inputs : FitsCount proposal.inputs.length
  outputs : FitsList FitsToken proposal.outputs
  commands : FitsList FitsCommand proposal.commands.toList
  requiredSignatories : FitsParties proposal.requiredSignatories

/-- Proposals with the same content have the same bytes. -/
theorem SameContent.canonicalBytes_eq {left right : Proposal} (same : left.SameContent right) :
    left.canonicalBytes = right.canonicalBytes := by
  have outputs : Canonical.list Canonical.token left.outputs =
      Canonical.list Canonical.token right.outputs :=
    Canonical.list_congr (fun _ _ alike => Canonical.token_congr alike) same.outputs
  rw [canonicalBytes, canonicalBytes, same.notary, same.start, same.stop, same.inputRefs, outputs,
    same.commands, same.requiredSignatories]

open Canonical in
theorem framed_canonicalBytes : Framed Fits SameContent canonicalBytes := by
  -- the parts nest to the left, as their bytes do
  have parts := ((((((framed_party.on Proposal.notary).append
    (framed_micros.on fun value : Proposal => value.timeWindow.start)).append
    (framed_micros.on fun value : Proposal => value.timeWindow.stop)).append
    (framed_stateRef.list.on inputRefs)).append
    (framed_token.list.on outputs)).append
    (framed_command.list.on fun value : Proposal => value.commands.toList)).append
    (framed_parties.on requiredSignatories)
  refine parts.imp (fun value fits => ?_) fun left right same => ?_
  · have inputs : FitsCount value.inputRefs.length := by
      rw [inputRefs, List.length_map]
      exact fits.inputs
    exact ⟨⟨⟨⟨⟨⟨fits.notary, trivial⟩, trivial⟩, inputs, fun _ _ => trivial⟩, fits.outputs⟩,
      fits.commands⟩, fits.requiredSignatories⟩
  · obtain ⟨⟨⟨⟨⟨⟨notary, start⟩, stop⟩, inputs⟩, outputs⟩, commands⟩, signatories⟩ := same
    rw [List.forall₂_eq_eq_eq] at inputs commands
    exact ⟨notary, start, stop, inputs, outputs, SortedSet.toList_inj.mp commands, signatories⟩

/-- **The canonical bytes bind exactly the content**: proposals have the same bytes if and only if
they have the same content, and whatever else they differ in, their ids hash to the same. -/
theorem canonicalBytes_bind_content {left right : Proposal} (leftFits : left.Fits)
    (rightFits : right.Fits) :
    (left.canonicalBytes = right.canonicalBytes ↔ left.SameContent right) ∧
      (left.SameContent right → left.contentId = right.contentId) := by
  refine ⟨⟨fun equal => ?_, fun same => same.canonicalBytes_eq⟩, fun same => ?_⟩
  · exact framed_canonicalBytes.same_of_eq leftFits rightFits equal
  · rw [contentId, contentId, same.canonicalBytes_eq]

/-! Two proposals that list a participant twice or once, in another order, begin in the same
microsecond, and consume one state under two readings of it. -/

namespace Rewritten

def alice : Party := ⟨⟨"CN=Alice"⟩, ⟨.replicate 1⟩⟩

def bob : Party := ⟨⟨"CN=Bob"⟩, ⟨.replicate 2⟩⟩

def startingAt (nano : Fin 1000) : TimeWindow where
  start := { Instant.epoch with
    nano := nano
    nano_lt := by have := nano.isLt; unfold nanosPerSecond; omega }
  stop := { Instant.epoch with
    second := 60
    firstSecond_le := by decide
    le_lastSecond := by decide }

def moving (quantity : UInt64) (window : TimeWindow) (participants : List Party) : Proposal where
  id := .zero
  notary := bob
  timeWindow := window
  inputs := [⟨⟨"GOLD", quantity, alice, bob, [alice]⟩, bob, ⟨.zero, 0⟩⟩]
  outputs := [⟨"GOLD", 5, bob, bob, participants⟩]
  commands := SortedSet.empty.insert (.ofList .move [alice])
  requiredSignatories := .ofList [alice]

def left : Proposal := moving 5 (startingAt 0) [alice, bob]

def right : Proposal := moving 7 (startingAt 999) [bob, alice, bob]

theorem mem_reordered (party : Party) : party ∈ [alice, bob] ↔ party ∈ [bob, alice, bob] := by
  simp only [List.mem_cons, List.not_mem_nil]
  tauto

end Rewritten

open Rewritten in
theorem canonicalBytes_bind_content_rewritten :
    left.Fits ∧ right.Fits ∧ left ≠ right ∧ left.SameContent right ∧
      left.canonicalBytes = right.canonicalBytes ∧ left.contentId = right.contentId := by
  have leftFits : left.Fits := ⟨by decide, by decide, by decide, by decide, by decide⟩
  have rightFits : right.Fits := ⟨by decide, by decide, by decide, by decide, by decide⟩
  have same : left.SameContent right :=
    ⟨rfl, rfl, rfl, rfl, .cons ⟨rfl, rfl, rfl, rfl, mem_reordered⟩ .nil, rfl, rfl⟩
  obtain ⟨bytes_eq_iff, id_eq⟩ := canonicalBytes_bind_content leftFits rightFits
  exact ⟨leftFits, rightFits, by decide, same, bytes_eq_iff.mpr same, id_eq same⟩

end Proposal

end TokenLedger
