import TokenLedger.Flow.Config
import TokenLedger.Flow.Error
import TokenLedger.Flow.Finalizer
import TokenLedger.Proposal.Draft
/-!
The mint flow: bringing a new token onto the ledger.

The flow looks up the parties and a notary, builds and signs the transaction (`prepare`), and
submits it until it gets a verdict or has used up its attempts (`finalize`). Nothing leaves the flow
before it submits, so an error of `prepare` means that nothing happened. Submitting again is safe,
because a notary gives a finalized transaction the same answer again.

The window of a proposal begins now. If its end cannot be expressed, as a span or as an instant, the
flow stops without an answer (`MintStop.beyondTime`).
-/

namespace TokenLedger

variable [SignatureScheme] [Timers]

/-- What is asked of the mint flow. -/
structure MintRequest where
  assetId : String
  quantity : Int64
  owner : MemberName
  issuer : MemberName
deriving DecidableEq, Repr, Inhabited

/-- Why the flow stops. -/
inductive MintStop where
  | failed (error : FlowError)
  /-- The window would end beyond the bounds of time. -/
  | beyondTime
deriving DecidableEq, Repr

/-- The flow of one member. -/
structure MintFlow where
  membership : Membership
  /-- The notaries in order of preference. -/
  notaries : List Party
  keys : KeyStore
  config : FlowConfig

namespace MintFlow

/-- A flow with settings that are within bounds. -/
def create (membership : Membership) (notaries : List Party) (keys : KeyStore)
    (config : FlowConfig) : Except ConfigError MintFlow :=
  config.validate.map fun () => ⟨membership, notaries, keys, config⟩

/-! ### Preparing -/

/-- The notary that is preferred. -/
def preferredNotary (flow : MintFlow) : Except LookupError Party :=
  match flow.notaries with
  | notary :: _ => .ok notary
  | [] => .error .noNotary

/-- The parties of a request: the member itself, the owner, the issuer and the notary. -/
def parties (flow : MintFlow) (request : MintRequest) :
    Except LookupError (Party × Party × Party × Party) := do
  let self ← flow.membership.self.party
  let owner ← flow.membership.party request.owner
  let issuer ← flow.membership.party request.issuer
  let notary ← flow.preferredNotary
  return (self, owner, issuer, notary)

/-- The end of the window that begins now. -/
def windowEnd (flow : MintFlow) (now : Instant) : Except MintStop Instant :=
  match flow.config.validity.bind now.add? with
  | some stop => .ok stop
  | none => .error .beyondTime

/-- The signature of the member itself, which has to be the only one required. -/
def signAlone (flow : MintFlow) (self : Party) (proposal : Proposal) :
    Except SigningError SignedTransaction := do
  let signed ← proposal.sign self flow.keys
  if signed.isComplete then return signed else throw (.incomplete signed.missing)

/-- Builds and signs the transaction that a request asks for. -/
def prepare (flow : MintFlow) (now : Instant) (request : MintRequest) :
    Except MintStop SignedTransaction := do
  let (self, owner, issuer, notary) ←
    (flow.parties request).mapError fun cause => .failed (.lookup cause)
  let token ← (Token.create request.assetId request.quantity owner issuer [owner, issuer]).mapError
    fun cause => .failed (.invalidToken cause)
  let stop ← flow.windowEnd now
  let proposal ← (Proposal.create notary token now stop).mapError
    fun cause => .failed (.invalidProposal cause)
  (flow.signAlone self proposal).mapError fun cause => .failed (.signing cause)

/-! ### Submitting -/

variable {σ : Type}

/-- The finalizer of the flow over a channel. -/
def finalizer (flow : MintFlow) (channel : Channel σ) : Finalizer σ :=
  ⟨channel, flow.config.timeoutMillis.toNat⟩

/-- Submits until a verdict arrives; after the attempt with the given number `left` more are
allowed. -/
def submitFrom (flow : MintFlow) (channel : Channel σ) (signed : SignedTransaction)
    (observers : List Party) (attempt : Nat) :
    Nat → Connection σ → Except FlowError TransactionId × Connection σ
  | left, connection =>
    let (outcome, connection) := (flow.finalizer channel).finalize connection signed observers
    match outcome, left with
    | .finalized id, _ => (.ok id, connection)
    | .rejected reason, _ => (.error (.rejected signed.id reason), connection)
    | .unreachable cause, 0 => (.error (.unreachable cause signed.id attempt), connection)
    | .unreachable _, left + 1 =>
      let pause := flow.config.backoff.delayAfter (UInt32.ofNat attempt)
      submitFrom flow channel signed observers (attempt + 1) left (connection.wait pause.toNat)

/-- Submits a transaction until a verdict arrives or the attempts are used up. -/
def finalize (flow : MintFlow) (channel : Channel σ) (connection : Connection σ)
    (signed : SignedTransaction) (observers : List Party) :
    Except FlowError TransactionId × Connection σ :=
  flow.submitFrom channel signed observers 1 (flow.config.maxAttempts.toNat - 1) connection

/-- Asks for the verdict on a transaction; none if the notary never ruled on it or cannot be
asked. -/
def query (flow : MintFlow) (channel : Channel σ) (connection : Connection σ)
    (id : TransactionId) : Option Outcome × Connection σ :=
  (flow.finalizer channel).query connection id

/-- Prepares the transaction that a request asks for and submits it; the answer is its id in
hexadecimal. -/
def run (flow : MintFlow) (channel : Channel σ) (connection : Connection σ) (now : Instant)
    (request : MintRequest) : Except MintStop String × Connection σ :=
  match flow.prepare now request with
  | .error stop => (.error stop, connection)
  | .ok signed =>
    let (result, connection) := flow.finalize channel connection signed []
    ((result.map TransactionId.toHex).mapError .failed, connection)

end MintFlow

end TokenLedger
