import TokenLedger.Proofs.Flow.Minting
/-!
Reasons against a request to mint.

A flow can sign for one party only, the one it runs as, while everyone who takes part in a token has
to sign for it. So a request is accepted only if its owner and its issuer both resolve to that party
(`Accepts`). The reasons against a request are asked for in a fixed order, of which the first that
holds counts:

* `Undraftable`: somebody cannot be resolved, there is no notary, or what is asked for is no token.
  Then no proposal is drafted.
* `Refuses`: the reasons above, and those against a proposal that is drafted: the flow's own party
  does not take part, it lacks its key, or another party would have to sign as well.

Every request is accepted or has a reason against it (`exists_reason`). None of this depends on the
time or on signatures.
-/

namespace TokenLedger

/-! ### Members and their parties -/

/-- A member stands for the party with its name and its first key. -/
def Member.StandsFor (member : Member) (party : Party) : Prop :=
  party.name = member.name ∧ member.keys.head? = some party.key

namespace Member

variable {member : Member} {party : Party}

theorem party_of_standsFor (stands : member.StandsFor party) : member.party = .ok party := by
  obtain ⟨name, key⟩ := party
  obtain ⟨rfl, first⟩ := stands
  unfold Member.party
  cases keys_eq : member.keys with
  | nil =>
    rw [keys_eq] at first
    cases first
  | cons head rest =>
    rw [keys_eq] at first
    cases first
    rfl

theorem party_of_keyless (keyless : member.keys = []) :
    member.party = .error (.noKey member.name) := by
  unfold Member.party
  rw [keyless]

/-- A member has no key or stands for a party. -/
theorem keyless_or_standsFor (member : Member) :
    member.keys = [] ∨ ∃ party, member.StandsFor party := by
  cases keys_eq : member.keys with
  | nil => exact Or.inl rfl
  | cons key rest => exact Or.inr ⟨⟨member.name, key⟩, rfl, by rw [keys_eq]; rfl⟩

end Member

namespace Membership

variable {membership : Membership} {name : MemberName} {member : Member} {party : Party}

/-- A name resolves to the party that the member under it stands for. -/
def Resolves (membership : Membership) (name : MemberName) (party : Party) : Prop :=
  ∃ member, membership.lookup name = some member ∧ member.StandsFor party

theorem party_of_resolves (resolves : membership.Resolves name party) :
    membership.party name = .ok party := by
  obtain ⟨member, entry, stands⟩ := resolves
  unfold Membership.party resolve
  rw [entry]
  exact Member.party_of_standsFor stands

theorem party_of_unknown (unknown : membership.lookup name = none) :
    membership.party name = .error (.unknownMember name) := by
  unfold Membership.party resolve
  rw [unknown]
  rfl

theorem party_of_keyless (entry : membership.lookup name = some member)
    (keyless : member.keys = []) : membership.party name = .error (.noKey member.name) := by
  unfold Membership.party resolve
  rw [entry]
  exact Member.party_of_keyless keyless

theorem lookup_add (membership : Membership) (member : Member) (name : MemberName) :
    (membership.add member).lookup name =
      if member.name = name then some member else membership.lookup name := by
  rw [lookup, add, SortedMap.get?_insert]
  simp only [eq_comm]
  rfl

/-- **The last entry under a name counts**, also if it replaces that of the member itself. -/
theorem lookup_ofMembers (self : Member) (members : List Member) (name : MemberName) :
    (ofMembers self members).lookup name =
      (self :: members).reverse.find? fun member => member.name = name := by
  have folded : ∀ membership : Membership, (members.foldl add membership).lookup name =
      (members.reverse.find? fun member => member.name = name).or (membership.lookup name) := by
    induction members with
    | nil => exact fun _ => rfl
    | cons first rest ih =>
      intro membership
      rw [List.foldl_cons, ih, lookup_add, List.reverse_cons, List.find?_append, Option.or_assoc]
      by_cases named : first.name = name
      · simp [named]
      · simp [named]
  rw [ofMembers, folded, List.reverse_cons, List.find?_append]
  congr 1
  show (Membership.add ⟨self, .empty⟩ self).lookup name = _
  rw [lookup_add]
  by_cases named : self.name = name
  · simp [named]
  · simp [named, lookup]

end Membership

/-! ### Tokens that are asked for -/

namespace Token

theorem quantityOf_eq_zero_iff {asked : Int64} : quantityOf asked = 0 ↔ asked.toInt ≤ 0 := by
  constructor
  · intro zero
    have below := asked.toInt_lt
    have small : asked.toNatClampNeg < UInt64.size := by
      unfold Int64.toNatClampNeg UInt64.size
      omega
    have read : (quantityOf asked).toNat = asked.toInt.toNat := UInt64.toNat_ofNat_of_lt' small
    rw [zero] at read
    exact Int.toNat_eq_zero.mp read.symm
  · intro not_positive
    by_contra positive
    have same := toNat_quantityOf positive
    have some_units : (quantityOf asked).toNat ≠ 0 := fun zero =>
      positive (UInt64.toNat_inj.mp zero)
    omega

variable {assetId : String} {asked : Int64} {owner issuer : Party} {participants : List Party}

theorem create_of_blank (blank : ∀ char ∈ assetId.toList, Text.isBlank char = true) :
    create assetId asked owner issuer participants = .error .emptyAssetId := by
  have unnamed : Text.allBlank assetId = true := List.all_eq_true.mpr blank
  unfold create validate
  simp [unnamed]

theorem create_of_not_positive (named : ∃ char ∈ assetId.toList, Text.isBlank char = false)
    (not_positive : asked.toInt ≤ 0) :
    create assetId asked owner issuer participants =
      .error (.nonPositiveQuantity asked.toInt) := by
  have named : Text.allBlank assetId = false := List.all_eq_false.mpr (by simpa using named)
  unfold create validate
  simp [named, quantityOf_eq_zero_iff.mpr not_positive]

/-- A token whose owner takes part is made of any name and any positive quantity. -/
theorem create_of_positive (named : ∃ char ∈ assetId.toList, Text.isBlank char = false)
    (positive : 0 < asked.toInt) (takes_part : owner ∈ participants) :
    create assetId asked owner issuer participants =
      .ok ⟨assetId, quantityOf asked, owner, issuer, participants⟩ := by
  have some_units : quantityOf asked ≠ 0 := fun zero =>
    Int.not_le.mpr positive (quantityOf_eq_zero_iff.mp zero)
  have valid := (validate_eq_ok_iff ⟨assetId, quantityOf asked, owner, issuer, participants⟩).mpr
    ⟨List.all_eq_false.mpr (by simpa using named), some_units, takes_part⟩
  unfold create
  simp [valid]

end Token

/-! ### Whom and what a request is about -/

namespace MintFlow

/-- The parties of a request: that of the flow itself, the owner and the issuer. -/
structure Cast (flow : MintFlow) (request : MintRequest) (own owner issuer : Party) : Prop where
  own_stands : flow.membership.self.StandsFor own
  owner_resolves : flow.membership.Resolves request.owner owner
  issuer_resolves : flow.membership.Resolves request.issuer issuer

/-- A request of which a proposal can be drafted: its parties are known, there is a notary, the
asset has a name that is not blank, and the quantity is positive. -/
structure Draftable (flow : MintFlow) (request : MintRequest) (own owner issuer : Party) :
    Prop where
  cast : flow.Cast request own owner issuer
  listed : flow.notaries ≠ []
  named : ∃ char ∈ request.assetId.toList, Text.isBlank char = false
  positive : 0 < request.quantity.toInt

/-- The reasons for which no proposal is drafted, in the order in which they are asked for. Each
holds only if none before it does. -/
inductive Undraftable (flow : MintFlow) (request : MintRequest) : FlowError → Prop
  | selfKeyless (keyless : flow.membership.self.keys = []) :
      Undraftable flow request (.lookup (.noKey flow.membership.self.name))
  | ownerUnknown {own : Party} (own_stands : flow.membership.self.StandsFor own)
      (unknown : flow.membership.lookup request.owner = none) :
      Undraftable flow request (.lookup (.unknownMember request.owner))
  | ownerKeyless {own : Party} {member : Member}
      (own_stands : flow.membership.self.StandsFor own)
      (entry : flow.membership.lookup request.owner = some member) (keyless : member.keys = []) :
      Undraftable flow request (.lookup (.noKey member.name))
  | issuerUnknown {own owner : Party} (own_stands : flow.membership.self.StandsFor own)
      (owner_resolves : flow.membership.Resolves request.owner owner)
      (unknown : flow.membership.lookup request.issuer = none) :
      Undraftable flow request (.lookup (.unknownMember request.issuer))
  | issuerKeyless {own owner : Party} {member : Member}
      (own_stands : flow.membership.self.StandsFor own)
      (owner_resolves : flow.membership.Resolves request.owner owner)
      (entry : flow.membership.lookup request.issuer = some member) (keyless : member.keys = []) :
      Undraftable flow request (.lookup (.noKey member.name))
  | noNotary {own owner issuer : Party} (cast : flow.Cast request own owner issuer)
      (none_listed : flow.notaries = []) : Undraftable flow request (.lookup .noNotary)
  | emptyAssetId {own owner issuer : Party} (cast : flow.Cast request own owner issuer)
      (listed : flow.notaries ≠ [])
      (blank : ∀ char ∈ request.assetId.toList, Text.isBlank char = true) :
      Undraftable flow request (.invalidToken .emptyAssetId)
  | nonPositiveQuantity {own owner issuer : Party} (cast : flow.Cast request own owner issuer)
      (listed : flow.notaries ≠ [])
      (named : ∃ char ∈ request.assetId.toList, Text.isBlank char = false)
      (not_positive : request.quantity.toInt ≤ 0) :
      Undraftable flow request (.invalidToken (.nonPositiveQuantity request.quantity.toInt))

/-- The reasons against a request, in the order in which they are asked for. -/
inductive Refuses (flow : MintFlow) (request : MintRequest) : FlowError → Prop
  | undraftable {error : FlowError} (undraftable : flow.Undraftable request error) :
      Refuses flow request error
  | notRequired {own owner issuer : Party} (draftable : flow.Draftable request own owner issuer)
      (bystander : own ≠ owner ∧ own ≠ issuer) :
      Refuses flow request (.signing (.notRequiredSignatory own))
  | noKey {own owner issuer : Party} (draftable : flow.Draftable request own owner issuer)
      (takes_part : own = owner ∨ own = issuer) (absent : flow.keys.holds own.key = false) :
      Refuses flow request (.signing (.noAvailableKey own))
  | incomplete {own owner issuer other : Party}
      (draftable : flow.Draftable request own owner issuer)
      (takes_part : own = owner ∨ own = issuer) (held : flow.keys.holds own.key = true)
      (too : other = owner ∨ other = issuer) (different : other ≠ own) :
      Refuses flow request (.signing (.incomplete [other]))

/-- A request is accepted if the flow's own party is owner and issuer and can sign. -/
structure Accepts (flow : MintFlow) (request : MintRequest) (own : Party) : Prop where
  draftable : flow.Draftable request own own own
  held : flow.keys.holds own.key = true

/-- Whether a proposal can be drafted does not depend on the settings. -/
theorem Draftable.withConfig {flow : MintFlow} {request : MintRequest} {own owner issuer : Party}
    (draftable : flow.Draftable request own owner issuer) (config : FlowConfig) :
    MintFlow.Draftable { flow with config } request own owner issuer :=
  ⟨⟨draftable.cast.own_stands, draftable.cast.owner_resolves, draftable.cast.issuer_resolves⟩,
    draftable.listed, draftable.named, draftable.positive⟩

/-! ### There is always a reason -/

/-- The parties of a request are known, or one of them cannot be resolved. -/
theorem exists_cast_or_undraftable (flow : MintFlow) (request : MintRequest) :
    (∃ own owner issuer, flow.Cast request own owner issuer) ∨
      ∃ error, flow.Undraftable request error := by
  rcases flow.membership.self.keyless_or_standsFor with keyless | ⟨own, own_stands⟩
  · exact Or.inr ⟨_, .selfKeyless keyless⟩
  cases owner_entry : flow.membership.lookup request.owner with
  | none => exact Or.inr ⟨_, .ownerUnknown own_stands owner_entry⟩
  | some member =>
    rcases member.keyless_or_standsFor with keyless | ⟨owner, owner_stands⟩
    · exact Or.inr ⟨_, .ownerKeyless own_stands owner_entry keyless⟩
    have owner_resolves : flow.membership.Resolves request.owner owner :=
      ⟨member, owner_entry, owner_stands⟩
    cases issuer_entry : flow.membership.lookup request.issuer with
    | none => exact Or.inr ⟨_, .issuerUnknown own_stands owner_resolves issuer_entry⟩
    | some other =>
      rcases other.keyless_or_standsFor with keyless | ⟨issuer, issuer_stands⟩
      · exact Or.inr ⟨_, .issuerKeyless own_stands owner_resolves issuer_entry keyless⟩
      · exact Or.inl ⟨own, owner, issuer, own_stands, owner_resolves,
          ⟨other, issuer_entry, issuer_stands⟩⟩

/-- A proposal can be drafted, or there is a reason for which it is not. -/
theorem exists_draftable_or_undraftable (flow : MintFlow) (request : MintRequest) :
    (∃ own owner issuer, flow.Draftable request own owner issuer) ∨
      ∃ error, flow.Undraftable request error := by
  rcases flow.exists_cast_or_undraftable request with ⟨own, owner, issuer, cast⟩ | undraftable
  · by_cases none_listed : flow.notaries = []
    · exact Or.inr ⟨_, .noNotary cast none_listed⟩
    by_cases blank : ∀ char ∈ request.assetId.toList, Text.isBlank char = true
    · exact Or.inr ⟨_, .emptyAssetId cast none_listed blank⟩
    have named : ∃ char ∈ request.assetId.toList, Text.isBlank char = false := by
      simpa using blank
    by_cases positive : 0 < request.quantity.toInt
    · exact Or.inl ⟨own, owner, issuer, cast, none_listed, named, positive⟩
    · exact Or.inr ⟨_, .nonPositiveQuantity cast none_listed named (Int.not_lt.mp positive)⟩
  · exact Or.inr undraftable

/-- **A request is accepted, or there is a reason against it.** -/
theorem exists_reason (flow : MintFlow) (request : MintRequest) :
    (∃ own, flow.Accepts request own) ∨ ∃ error, flow.Refuses request error := by
  rcases flow.exists_draftable_or_undraftable request with
    ⟨own, owner, issuer, draftable⟩ | ⟨error, undraftable⟩
  · by_cases bystander : own ≠ owner ∧ own ≠ issuer
    · exact Or.inr ⟨_, .notRequired draftable bystander⟩
    have takes_part : own = owner ∨ own = issuer := by
      simpa only [← not_or, not_not] using bystander
    cases held : flow.keys.holds own.key with
    | false => exact Or.inr ⟨_, .noKey draftable takes_part held⟩
    | true =>
      by_cases owns : owner = own
      · by_cases issues : issuer = own
        · rw [owns, issues] at draftable
          exact Or.inl ⟨own, draftable, held⟩
        · exact Or.inr ⟨_, .incomplete draftable takes_part held (Or.inr rfl) issues⟩
      · exact Or.inr ⟨_, .incomplete draftable takes_part held (Or.inl rfl) owns⟩
  · exact Or.inr ⟨error, .undraftable undraftable⟩

end MintFlow

end TokenLedger
