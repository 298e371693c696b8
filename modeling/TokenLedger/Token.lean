import TokenLedger.Party
import TokenLedger.Text.Blank
/-!
Tokens: who holds how many units of which asset.

A token is sound if its asset has a name, its quantity is positive, somebody takes part in it, and
its owner is among those who take part. `validate` reports the first of these that fails, in this
order (`validate_eq_ok_iff` says that it accepts exactly the sound tokens).

A token never changes: moving a holding makes a new token with another owner. The issuer goes on
taking part, so that it keeps sight of the units it brought into being (`Sound.withOwner`: a moved
token is sound if its source is).
-/

namespace TokenLedger

/-- Why attributes do not make a token. -/
inductive TokenError where
  /-- The quantity that was asked for is not positive. -/
  | nonPositiveQuantity (asked : Int)
  | emptyAssetId
  | noParticipants
  | ownerNotParticipant (owner : Party)
deriving DecidableEq, Repr

namespace TokenError

def message : TokenError → String
  | .nonPositiveQuantity asked => "quantity must be positive, got " ++ toString asked
  | .emptyAssetId => "asset_id must not be empty"
  | .noParticipants => "participants must not be empty"
  | .ownerNotParticipant owner => "participants must include the owner " ++ owner.text

/-- The kind of the error in one word. -/
def kind : TokenError → String
  | .nonPositiveQuantity _ => "NonPositiveQuantity"
  | .emptyAssetId => "EmptyAssetId"
  | .noParticipants => "NoParticipants"
  | .ownerNotParticipant _ => "OwnerNotParticipant"

/-- The name of the attribute that is at fault. -/
def field : TokenError → String
  | .nonPositiveQuantity _ => "quantity"
  | .emptyAssetId => "asset_id"
  | .noParticipants | .ownerNotParticipant _ => "participants"

end TokenError

/-- The record of a holding: a quantity of an asset, its holder, who issued it, and who takes part.
The participants keep the order they were given in and may repeat. -/
structure Token where
  assetId : String
  quantity : UInt64
  owner : Party
  issuer : Party
  participants : List Party
deriving DecidableEq, Repr

namespace Token

/-- Reports the first attribute that keeps this from being a token. -/
def validate (token : Token) : Except TokenError Unit :=
  if Text.allBlank token.assetId then .error .emptyAssetId
  else if token.quantity = 0 then .error (.nonPositiveQuantity 0)
  else if token.participants = [] then .error .noParticipants
  else if token.owner ∉ token.participants then .error (.ownerNotParticipant token.owner)
  else .ok ()

/-- What every token keeps: a named asset, a positive quantity, and an owner who takes part. -/
structure Sound (token : Token) : Prop where
  named : Text.allBlank token.assetId = false
  positive : token.quantity ≠ 0
  owner_mem : token.owner ∈ token.participants

/-- **Validation accepts exactly the sound tokens.** -/
theorem validate_eq_ok_iff (token : Token) : token.validate = .ok () ↔ token.Sound := by
  constructor
  · intro accepted
    unfold validate at accepted
    split at accepted <;> try contradiction
    split at accepted <;> try contradiction
    split at accepted <;> try contradiction
    split at accepted <;> try contradiction
    exact ⟨by simp_all, by assumption, by simp_all⟩
  · rintro ⟨named, positive, owner_mem⟩
    have someone : token.participants ≠ [] := List.ne_nil_of_mem owner_mem
    simp [validate, named, positive, someone, owner_mem]

/-- The quantity that a request asks for, or zero where it asks for less than zero. -/
def quantityOf (asked : Int64) : UInt64 :=
  UInt64.ofNat asked.toNatClampNeg

/-- Makes a token; the error on a quantity shows the number that was asked for. -/
def create (assetId : String) (asked : Int64) (owner issuer : Party) (participants : List Party) :
    Except TokenError Token :=
  let token : Token := ⟨assetId, quantityOf asked, owner, issuer, participants⟩
  match token.validate with
  | .ok () => .ok token
  | .error (.nonPositiveQuantity _) => .error (.nonPositiveQuantity asked.toInt)
  | .error other => .error other

/-- The same holding in other hands: the new owner takes part, and so does the issuer. -/
def withOwner (token : Token) (newOwner : Party) : Token :=
  { token with
    owner := newOwner
    participants := if token.issuer = newOwner then [newOwner] else [newOwner, token.issuer] }

/-- Moving a holding keeps it sound. -/
theorem Sound.withOwner {token : Token} (sound : token.Sound) (newOwner : Party) :
    (token.withOwner newOwner).Sound where
  named := sound.named
  positive := sound.positive
  owner_mem := by simp only [Token.withOwner]; split <;> simp

end Token

/-- A finalized token, the notary that governs it and the reference that consumes it. -/
structure Holding where
  token : Token
  notary : Party
  ref : StateRef
deriving DecidableEq, Repr

end TokenLedger
