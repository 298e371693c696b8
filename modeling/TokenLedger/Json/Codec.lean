import TokenLedger.Json.Outline
/-!
Ways of writing a type in JSON and reading it back.

A `Codec` pairs a writer with a reader. Writing gives a JSON value; reading starts from an outline,
because what a text is asked for decides which of its flaws is reported.

This module holds the codecs of strings, numbers and lists, and the steps that build a codec from
another: by a change of type, or with a check that a value has to pass when it is read.
-/

namespace TokenLedger.Json

/-- A way of writing values of a type and of reading them. -/
structure Codec (α : Type) where
  read : Outline → Except Fault α
  write : α → Json

namespace Codec

variable {α β : Type}

/-! ### Strings and numbers -/

/-- Any string. -/
def string : Codec String where
  read
    | .string wanted _ => sound wanted
    | other => throw (other.mismatch "a string")
  write := .string

/-- A whole number of a type whose members are the natural numbers up to `most`. -/
def natural (wanted : String) (most : Nat) (ofNat : Nat → α) (toNat : α → Nat) : Codec α where
  read
    | .number (.ok (.natural value)) _ =>
      if value.toNat ≤ most then .ok (ofNat value.toNat)
      else throw (.unfit (.outOfRange (.natural value) wanted))
    | .number (.ok (.negative value)) _ => throw (.unfit (.outOfRange (.negative value) wanted))
    | other => throw (other.mismatch wanted)
  write value := .natural (UInt64.ofNat (toNat value))

def byte : Codec UInt8 := natural "u8" (UInt8.size - 1) UInt8.ofNat UInt8.toNat

def word32 : Codec UInt32 := natural "u32" (UInt32.size - 1) UInt32.ofNat UInt32.toNat

def word64 : Codec UInt64 := natural "u64" (UInt64.size - 1) UInt64.ofNat UInt64.toNat

/-- A signed whole number of sixty-four bits. -/
def signed64 : Codec Int64 where
  read
    | .number (.ok (.natural value)) _ =>
      if value.toNat < UInt64.size / 2 then .ok (Int64.ofNat value.toNat)
      else throw (.unfit (.outOfRange (.natural value) "i64"))
    | .number (.ok (.negative value)) _ => .ok value
    | other => throw (other.mismatch "i64")
  write value :=
    if 0 ≤ value then .natural (UInt64.ofNat value.toNatClampNeg) else .number (.negative value)

/-- A double; whole numbers are read as the nearest one. -/
def double : Codec Float where
  read
    | .number (.ok value) _ => .ok value.toFloat
    | other => throw (other.mismatch "f64")
  write value := .number (.float value)

/-! ### Change of type -/

/-- A codec for another type with the same values. -/
def convert (codec : Codec α) (make : α → β) (parts : β → α) : Codec β where
  read outline := (codec.read outline).map make
  write value := codec.write (parts value)

/-- A codec for a type of which only some values come from the other type; the others are refused
for a reason. -/
def checked (codec : Codec α) (make : α → Except String β) (parts : β → α) : Codec β where
  read outline := do
    let value ← codec.read outline
    (make value).mapError fun reason => .unfit (.rejection reason)
  write value := codec.write (parts value)

/-! ### Lists -/

/-- Reads items one after the other. -/
def readItems (read : Outline → Except Fault α) : List Outline → Except Fault (List α)
  | [] => .ok []
  | item :: rest => do
    let value ← readPart read item
    let values ← readItems read rest
    return value :: values

/-- Any number of items. -/
def list (codec : Codec α) : Codec (List α) where
  read
    | .array items finish => do
      let values ← readItems codec.read items
      sound finish
      return values
    | other => throw (other.mismatch "a sequence")
  write values := .array (values.map codec.write)

/-- Reads the items that are due, of which `taken` were read before, and gives back what is left
over. -/
def readCount (read : Outline → Except Fault α) (wanted : String) (finish : Except Flaw Unit)
    (taken : Nat) : Nat → List Outline → Except Fault (List α × List Outline)
  | 0, items => .ok ([], items)
  | _ + 1, [] => do
    sound finish
    throw (.unfit (.wrongLength taken wanted))
  | due + 1, item :: rest => do
    let value ← readPart read item
    let (values, left) ← readCount read wanted finish (taken + 1) due rest
    return (value :: values, left)

/-- A fixed number of items; more than that are malformed. -/
def count (length : Nat) (codec : Codec α) : Codec (List α) where
  read
    | .array items finish => do
      let (values, left) ←
        readCount codec.read (arrayOf length) finish 0 length items
      unless left.isEmpty do throw (.flawed .malformed)
      sound finish
      return values
    | other => throw (other.mismatch (arrayOf length))
  write values := .array (values.map codec.write)
where
  /-- How an array of some length is called when it was wanted. -/
  arrayOf (length : Nat) : String := "an array of length " ++ toString length

end Codec

end TokenLedger.Json
