import TokenLedger.Bytes
import TokenLedger.Curve.Ed25519
import TokenLedger.Curve.Field
import TokenLedger.Curve.Point
import TokenLedger.Decimal.Binary64
import TokenLedger.Decimal.Reading
import TokenLedger.Decimal.Shortest
import TokenLedger.Decimal.Text
import TokenLedger.Flow.Channel
import TokenLedger.Flow.Config
import TokenLedger.Flow.Error
import TokenLedger.Flow.Finalizer
import TokenLedger.Flow.LocalLink
import TokenLedger.Flow.Membership
import TokenLedger.Flow.Mint
import TokenLedger.Flow.Script
import TokenLedger.Flow.Timers
import TokenLedger.Hash.Blocks
import TokenLedger.Hash.Sha256
import TokenLedger.Hash.Sha512
import TokenLedger.Hex
import TokenLedger.Identifier
import TokenLedger.Json.Basic
import TokenLedger.Json.Choice
import TokenLedger.Json.Codec
import TokenLedger.Json.Fault
import TokenLedger.Json.Number
import TokenLedger.Json.Numeral
import TokenLedger.Json.Outline
import TokenLedger.Json.Position
import TokenLedger.Json.Record
import TokenLedger.Json.Scan
import TokenLedger.Notary.ConsumedStates
import TokenLedger.Notary.Service
import TokenLedger.Outcome
import TokenLedger.Party
import TokenLedger.Proofs.Notary.Consistency
import TokenLedger.Proofs.Notary.ConsumedStates
import TokenLedger.Proofs.Notary.Finality
import TokenLedger.Proofs.Notary.Run
import TokenLedger.Proofs.Notary.Step
import TokenLedger.Proofs.Proposal.Canonical
import TokenLedger.Proofs.Proposal.Framing
import TokenLedger.Proofs.Signing.Verification
import TokenLedger.Proposal.Basic
import TokenLedger.Proposal.Canonical
import TokenLedger.Proposal.Draft
import TokenLedger.Proposal.Validity
import TokenLedger.Signing.Scheme
import TokenLedger.Signing.Signature
import TokenLedger.Signing.SignedTransaction
import TokenLedger.SortedMap
import TokenLedger.SortedSet
import TokenLedger.Text.Blank
import TokenLedger.Text.Hidden
import TokenLedger.Text.Quoted
import TokenLedger.Time.Calendar
import TokenLedger.Time.Clock
import TokenLedger.Time.Instant
import TokenLedger.Time.Timestamp
import TokenLedger.Token
import TokenLedger.Wire.FlowConfig
import TokenLedger.Wire.Identifier
import TokenLedger.Wire.Mint
import TokenLedger.Wire.Outcome
import TokenLedger.Wire.Party
import TokenLedger.Wire.Proposal
import TokenLedger.Wire.Signing
import TokenLedger.Wire.Token
import TokenLedger.Proofs.Notary.Lifecycle
import TokenLedger.Proofs.Flow.KnownOutcome
import TokenLedger.Proofs.Notary.Windows
import TokenLedger.Proofs.Notary.Frame
import TokenLedger.Proofs.Json.Reading
import TokenLedger.Proofs.Proposal.Validity
import TokenLedger.Proofs.Obtainable
import TokenLedger.Proofs.Signing.Collecting
import TokenLedger.Proofs.Proposal.Assembly
import TokenLedger.Proofs.Flow.Attempts
import TokenLedger.Proofs.Flow.FaultyLink
import TokenLedger.Proofs.Hex
import TokenLedger.Proofs.Flow.Minting
import TokenLedger.Proofs.Json.Printing
import TokenLedger.Proofs.Json.Surviving
import TokenLedger.Proofs.Time.Calendar
import TokenLedger.Proofs.Time.Timestamp
import TokenLedger.Proofs.Wire.Proposal
import TokenLedger.Proofs.Notary.FirstCommitter
import TokenLedger.Proofs.Flow.WindowEnd
import TokenLedger.Proofs.Flow.Reasons
import TokenLedger.Proofs.Flow.Preparing
import TokenLedger.Proofs.Flow.BeyondTime
import TokenLedger.Proofs.Wire.Signing
import TokenLedger.Proofs.First
import TokenLedger.Proofs.Proposal.FirstFault
import TokenLedger.Proofs.Proposal.Building
import TokenLedger.Proofs.Signing.Priority
import TokenLedger.Proofs.Signing.AnyOrder
import TokenLedger.Proofs.Identifier
import TokenLedger.Proofs.Time.Addition
import TokenLedger.Proofs.Time.Clock
import TokenLedger.Proofs.Proposal.Drafted
import TokenLedger.Proofs.Proposal.Chain
