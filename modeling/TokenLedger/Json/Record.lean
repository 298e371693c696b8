import TokenLedger.Json.Codec
/-!
Records: values made of named fields.

A record is written as an object with its fields in the order of their declaration. It is read from
an object whose members may come in any order and may include others, which are passed over; no
field may come twice, and every field has to come unless it has a fallback. It is also read from an
array that gives the fields in the order of declaration; a field with a fallback may be left out at
the end.

`Fields` lists the fields with their types; the values of a record are a product over the same list
of types.
-/

namespace TokenLedger.Json

/-- A field of a record. -/
structure Field (α : Type) where
  name : String
  codec : Codec α
  /-- What the field is when it is not given. -/
  fallback : Option α

/-- The fields of a record in the order of their declaration. -/
inductive Fields : List Type → Type 1 where
  | none : Fields []
  | cons {α : Type} {types : List Type} (field : Field α) (rest : Fields types) :
    Fields (α :: types)

/-- One value for each type of a list. -/
def Values : List Type → Type
  | [] => Unit
  | α :: types => α × Values types

/-- For each type of a list a value or none. -/
def Slots : List Type → Type
  | [] => Unit
  | α :: types => Option α × Slots types

namespace Fields

/-- The fields with one more in front, which has to be given. -/
def required {α : Type} {types : List Type} (name : String) (codec : Codec α)
    (rest : Fields types) : Fields (α :: types) :=
  .cons ⟨name, codec, Option.none⟩ rest

/-- The fields with one more in front, which may be left out. -/
def optional {α : Type} {types : List Type} (name : String) (codec : Codec α) (fallback : α)
    (rest : Fields types) : Fields (α :: types) :=
  .cons ⟨name, codec, some fallback⟩ rest

/-- The number of fields. -/
def size {types : List Type} : Fields types → Nat
  | .none => 0
  | .cons _ rest => rest.size + 1

/-- The names of the fields in order. -/
def names {types : List Type} : Fields types → List String
  | .none => []
  | .cons field rest => field.name :: rest.names

/-! ### Writing -/

/-- The members of the object that a record is written as. -/
def write {types : List Type} : Fields types → Values types → List (String × Json)
  | .none, _ => []
  | .cons field rest, (value, values) => (field.name, field.codec.write value) :: rest.write values

/-! ### Reading from an object -/

/-- No values. -/
def empty {types : List Type} : Fields types → Slots types
  | .none => ()
  | .cons _ rest => (Option.none, rest.empty)

/-- Reads a member into the slot of the field it names, or passes it over if there is none. -/
def store {types : List Type} :
    Fields types → String → Outline → Slots types → Except Fault (Slots types)
  | .none, _, member, slots => do
    sound member.passOver
    return slots
  | .cons field rest, name, member, (slot, slots) =>
    if field.name = name then
      match slot with
      | some _ => throw (.unfit (.duplicateField name))
      | Option.none => do
        let value ← readPart field.codec.read member
        return (some value, slots)
    else do
      let slots ← rest.store name member slots
      return (slot, slots)

/-- Reads members one after the other. -/
def storeAll {types : List Type} (fields : Fields types) :
    List (Outline × Outline) → Slots types → Except Fault (Slots types)
  | [], slots => .ok slots
  | (key, member) :: rest, slots => do
    let name ← sound key.name
    let slots ← fields.store name member slots
    fields.storeAll rest slots

/-- The values in the slots and the fallbacks of empty ones; an empty slot without a fallback is
missing. -/
def complete {types : List Type} : Fields types → Slots types → Except Fault (Values types)
  | .none, _ => .ok ()
  | .cons field rest, (slot, slots) =>
    match slot <|> field.fallback with
    | some value => do
      let values ← rest.complete slots
      return (value, values)
    | Option.none => throw (.unfit (.missingField field.name))

/-! ### Reading from an array -/

/-- Reads items as the fields in order, of which `taken` were read before, and gives back what is
left over. -/
def fill {types : List Type} (wanted : String) (finish : Except Flaw Unit) :
    Fields types → Nat → List Outline → Except Fault (Values types × List Outline)
  | .none, _, items => .ok ((), items)
  | .cons field rest, taken, item :: items => do
    let value ← readPart field.codec.read item
    let (values, left) ← rest.fill wanted finish (taken + 1) items
    return ((value, values), left)
  | .cons field rest, taken, [] => do
    sound finish
    match field.fallback with
    | some value => do
      let (values, left) ← rest.fill wanted finish (taken + 1) []
      return ((value, values), left)
    | Option.none => throw (.unfit (.wrongLength taken wanted))

/-- How a record of some title is called when its length is wrong. -/
def titleWithSize {types : List Type} (title : String) (fields : Fields types) : String :=
  title ++ " with " ++ toString fields.size ++ (if fields.size = 1 then " element" else " elements")

/-- Reads a record; the title names it where something else was found. -/
def read {types : List Type} (title : String) (fields : Fields types) :
    Outline → Except Fault (Values types)
  | .object members finish => do
    let slots ← fields.storeAll members fields.empty
    sound finish
    fields.complete slots
  | .array items finish => do
    let (values, left) ← fields.fill (fields.titleWithSize title) finish 0 items
    unless left.isEmpty do throw (.flawed .malformed)
    sound finish
    return values
  | other => throw (other.mismatch title)

end Fields

/-- The codec of a record. -/
def Codec.record {types : List Type} (title : String) (fields : Fields types) :
    Codec (Values types) where
  read := fields.read title
  write values := .object (fields.write values)

end TokenLedger.Json
