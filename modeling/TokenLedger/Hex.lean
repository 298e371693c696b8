import TokenLedger.Bytes
import TokenLedger.Text.Quoted
/-!
Hexadecimal text.

A byte is written as two lower-case digits, the high half first. Reading works on the UTF-8 bytes of
the text: it takes both cases, asks first for an even number of bytes, and then names the first byte
that is no digit together with its position.
-/

namespace TokenLedger.Hex

/-- Why a text is not hexadecimal. -/
inductive HexError where
  /-- The text has an odd number of bytes. -/
  | oddLength
  /-- The byte at this position is no digit. -/
  | notADigit (byte : UInt8) (position : Nat)
deriving DecidableEq, Repr

/-- The sentence that reports the error; a byte that is no digit is shown as the character with its
code point. -/
def HexError.message : HexError → String
  | .oddLength => "Odd number of digits"
  | .notADigit byte position =>
    "Invalid character " ++ Text.quoteChar (Char.ofNat byte.toNat) ++ " at position "
      ++ toString position

/-! ### Writing -/

/-- The lower-case digit of a number below sixteen. -/
def digit (value : Nat) : Char :=
  if value < 10 then Char.ofNat (0x30 + value) else Char.ofNat (0x57 + value)

/-- The two digits of each byte in turn. -/
def encodePairs (bytes : List UInt8) : List Char :=
  bytes.flatMap fun byte => [digit (byte.toNat / 16), digit (byte.toNat % 16)]

/-- The hexadecimal text of a byte string. -/
def encode (bytes : List UInt8) : String :=
  String.ofList (encodePairs bytes)

/-! ### Reading -/

/-- The value of a byte that is the ASCII code of a digit of either case. -/
def digitValue? (byte : UInt8) : Option Nat :=
  if 0x30 ≤ byte ∧ byte ≤ 0x39 then some (byte.toNat - 0x30)
  else if 0x61 ≤ byte ∧ byte ≤ 0x66 then some (byte.toNat - 0x57)
  else if 0x41 ≤ byte ∧ byte ≤ 0x46 then some (byte.toNat - 0x37)
  else none

/-- The value of the digit at a position. -/
def digitValue (byte : UInt8) (position : Nat) : Except HexError Nat :=
  match digitValue? byte with
  | some value => .ok value
  | none => .error (.notADigit byte position)

/-- Reads pairs of digits; the first pair stands at the given position. -/
def decodeFrom (position : Nat) : List UInt8 → Except HexError (List UInt8)
  | high :: low :: rest => do
    let highValue ← digitValue high position
    let lowValue ← digitValue low (position + 1)
    let tail ← decodeFrom (position + 2) rest
    return UInt8.ofNat (16 * highValue + lowValue) :: tail
  | _ => .ok []

/-- The byte string that a text writes in hexadecimal. -/
def decode (text : String) : Except HexError (List UInt8) :=
  let bytes := utf8 text
  if bytes.length % 2 = 1 then .error .oddLength else decodeFrom 0 bytes

end TokenLedger.Hex
