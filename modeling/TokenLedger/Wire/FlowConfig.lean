import TokenLedger.Flow.Config
import TokenLedger.Json.Record
import TokenLedger.Json.Scan
/-!
Settings of the mint flow on the wire.

A setting that is not given has its standard value. A backoff is told apart by its type, which may
stand anywhere among its members, or first if it is given as an array: everything else is kept until
the whole of it was gone through, and only then read as the fields of that type. What is kept may be
nested only so deep that the whole text has at most `deepest` levels.
-/

namespace TokenLedger

open Json (Codec Fields Fault Flaw Outline Values)

namespace Wire

/-- The greatest number of arrays and objects that may be nested in each other where values are
kept. -/
def deepest : Nat := 127

/-! ### Backoff -/

/-- The two types of backoff. -/
inductive BackoffType where
  | fixed
  | exponential
deriving DecidableEq, Repr

/-- The member that gives the type. -/
def typeKey : String := "type"

/-- Where something else than a backoff was found. -/
def backoffTitle : String := "internally tagged enum BackoffConfig"

def fixedFields : Fields [UInt64] :=
  .required "delay_ms" .word64 .none

def exponentialFields : Fields [UInt64, UInt64, Float] :=
  .required "initial_delay_ms" .word64 <| .required "max_delay_ms" .word64
    <| .optional "multiplier" .double Backoff.standardFactor .none

/-- Reads the type of a backoff. -/
def readBackoffType : Outline → Except Fault BackoffType
  | .string wanted _ => do
    let name ← Json.sound wanted
    if name = "fixed" then return .fixed
    else if name = "exponential" then return .exponential
    else throw (.unfit (.unknownVariant name ["fixed", "exponential"]))
  | other => throw (other.mismatch "variant identifier")

/-- How a number of items is called when there are more. -/
def itemsWanted (count : Nat) : String :=
  toString count ++ (if count = 1 then " element in sequence" else " elements in sequence")

/-- Reads fields from what was kept; items that are left over are too many. -/
def readKept {types : List Type} (title : String) (fields : Fields types) :
    Outline → Except Fault (Values types)
  | .array items _ => do
    let (values, left) ← fields.fill (fields.titleWithSize title) (.ok ()) 0 items
    unless left.isEmpty do
      throw (.unfit (.wrongLength items.length (itemsWanted fields.size)))
    return values
  | other => fields.read title other

/-- Reads the fields of a backoff whose type is known. -/
def readBackoffFields (kept : Outline) : BackoffType → Except Fault Backoff
  | .fixed => do
    let (delay, ()) ← readKept "struct variant BackoffConfig::Fixed" fixedFields kept
    return .fixed delay
  | .exponential => do
    let (initial, greatest, factor, ()) ←
      readKept "struct variant BackoffConfig::Exponential" exponentialFields kept
    return .exponential initial greatest factor

/-- Goes through the members of a backoff in order: reads the type where it comes, of which one was
seen before if `seen` holds it, and keeps the others. -/
def separateType (room : Nat) (seen : Option BackoffType) :
    List (Outline × Outline) →
      Except Fault (Option BackoffType × List (Outline × Outline))
  | [] => .ok (seen, [])
  | (key, member) :: rest => do
    let name ← Json.sound key.name
    if name = typeKey then
      if seen.isSome then throw (.unfit (.duplicateField name))
      let type ← readBackoffType member
      separateType room (some type) rest
    else
      Json.sound (member.keep room)
      let (type, others) ← separateType room seen rest
      return (type, (key, member) :: others)

/-- Reads a backoff that stands inside of `level` arrays and objects. -/
def readBackoff (level : Nat) : Outline → Except Fault Backoff
  | .object members finish => do
    let (type, others) ← separateType (deepest - level - 1) none members
    Json.sound finish
    match type with
    | some type => readBackoffFields (.object others (.ok ())) type
    | none => throw (.unfit (.missingField typeKey))
  | .array [] finish => do
    Json.sound finish
    throw (.unfit (.missingField typeKey))
  | .array (first :: rest) finish => do
    let type ← readBackoffType first
    Json.sound (Outline.keepItems (deepest - level - 1) rest)
    Json.sound finish
    readBackoffFields (.array rest (.ok ())) type
  | other => throw (other.mismatch backoffTitle)

/-- Writes a backoff, its type first. -/
def writeBackoff : Backoff → Json
  | .fixed delay => .object ((typeKey, .string "fixed") :: fixedFields.write (delay, ()))
  | .exponential initial greatest factor =>
    .object ((typeKey, .string "exponential")
      :: exponentialFields.write (initial, greatest, factor, ()))

/-- A backoff inside of a number of arrays and objects. -/
def backoff (level : Nat) : Codec Backoff := ⟨readBackoff level, writeBackoff⟩

/-! ### All settings -/

def flowConfig : Codec FlowConfig :=
  (Codec.record "struct FlowConfig"
    (.optional "validity_window_secs" .word64 FlowConfig.standard.validitySeconds
      <| .optional "finality_timeout_ms" .word64 FlowConfig.standard.timeoutMillis
      <| .optional "max_attempts" .word32 FlowConfig.standard.maxAttempts
      <| .optional "backoff" (backoff 1) FlowConfig.standard.backoff .none)).convert
    (fun (validitySeconds, timeoutMillis, maxAttempts, backoff, ()) =>
      ⟨validitySeconds, timeoutMillis, maxAttempts, backoff⟩)
    (fun config =>
      (config.validitySeconds, config.timeoutMillis, config.maxAttempts, config.backoff, ()))

end Wire

namespace FlowConfig

/-- Reads settings from a text; they have to be within bounds. -/
def parse (text : String) : Except ConfigError FlowConfig := do
  let config ← (Json.decode Wire.flowConfig.read text).mapError .parse
  config.validate
  return config

/-- Reads settings from the bytes of a file; `none` stands for a file that cannot be read. -/
def ofFile (contents : Option (List UInt8)) : Except ConfigError FlowConfig :=
  match contents.bind fun bytes => String.fromUTF8? (ByteArray.mk bytes.toArray) with
  | some text => parse text
  | none => .error .unreadable

end FlowConfig

end TokenLedger
