import TokenLedger.Flow.Channel
/-!
A link to a notary nearby, with trouble at will.

A partitioned link fails every call. A number of failures can be planned, each of which stops one
submission before it reaches the notary. A delay holds a verdict back after the notary has ruled.
Every submission counts, whatever becomes of it.
-/

namespace TokenLedger

variable [SignatureScheme]

/-- A notary, and the state of the link to it. -/
structure LocalLink where
  notary : Notary
  partitioned : Bool
  /-- How many of the next submissions fail before they reach the notary. -/
  failures : Nat
  /-- The milliseconds by which a verdict is held back. -/
  delay : Nat
  /-- The number of submissions so far. -/
  submissions : Nat

namespace LocalLink

/-- A link without trouble. -/
def fresh (notary : Notary) : LocalLink := ⟨notary, false, 0, 0, 0⟩

/-- The link after the network was partitioned or healed. -/
def partition (link : LocalLink) (partitioned : Bool) : LocalLink := { link with partitioned }

/-- The link of which the next submissions fail. -/
def failNext (link : LocalLink) (failures : Nat) : LocalLink := { link with failures }

/-- The link that holds verdicts back. -/
def holdBack (link : LocalLink) (delay : Nat) : LocalLink := { link with delay }

/-- The failure of a partitioned link. -/
def noRoute (link : LocalLink) : TransportError :=
  .network ("no route to " ++ link.notary.identity.text)

/-- Submits over a link that is not partitioned. -/
def pass (link : LocalLink) (now : Instant) (signed : SignedTransaction) (observers : List Party) :
    Reply Outcome × LocalLink :=
  match link.failures with
  | failures + 1 => (.now (.error (.network "connection reset")), { link with failures })
  | 0 =>
    match link.notary.notarise now signed observers with
    | (.error cause, notary) => (.now (.error (.notary cause)), { link with notary })
    | (.ok outcome, notary) => (⟨.ok outcome, some link.delay⟩, { link with notary })

/-- Submits a transaction at a time. -/
def submit (link : LocalLink) (now : Instant) (signed : SignedTransaction)
    (observers : List Party) : Reply Outcome × LocalLink :=
  let link := { link with submissions := link.submissions + 1 }
  if link.partitioned then (.now (.error link.noRoute), link) else link.pass now signed observers

/-- Asks for the verdict on a transaction. -/
def ask (link : LocalLink) (id : TransactionId) : Reply (Option Outcome) × LocalLink :=
  if link.partitioned then (.now (.error link.noRoute), link)
  else (.now (.ok (link.notary.outcome? id)), link)

/-- The link as a channel at a time. -/
def channel (now : Instant) : Channel LocalLink :=
  ⟨fun link signed observers => link.submit now signed observers, ask⟩

end LocalLink

end TokenLedger
